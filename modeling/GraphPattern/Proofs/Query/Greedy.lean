/-
# The plan by connectivity is the greedy order

What comes next is said here without the planner: of the patterns that are left, the one
that has most slots in common with those placed, the earliest of several.  `InTurn` says
that each element of an order is chosen so, and `IsGreedy` puts the patterns without
variables in front.  There is just one such order, since of two patterns that are left only
one comes before the other, and the planner finds it: `bestOf_comesBefore` is one choice,
`greedy_inTurn` all of them.
-/
import GraphPattern.Proofs.Distinct
import GraphPattern.Query.Planner
import Mathlib.Data.Finset.Card

namespace GraphPattern

theorem TriplePattern.mem_slots {p : TriplePattern} {v : VarId} :
    v ∈ p.slots ↔ .slot v ∈ p.terms := by
  have found : ∀ x : PatternTerm, x.slot? = some v ↔ x = .slot v := by
    intro x
    cases x <;> simp [PatternTerm.slot?]
  rw [slots, mem_foldl_insertNew, List.mem_filterMap]
  simp [found]

theorem TriplePattern.nodup_slots (p : TriplePattern) : p.slots.Nodup :=
  nodup_foldl_insertNew .nil _

/-- All variables of a pattern are slots. -/
def TriplePattern.NameFree (p : TriplePattern) : Prop := ∀ name, .named name ∉ p.terms

instance TriplePattern.decidableNameFree (p : TriplePattern) : Decidable p.NameFree :=
  decidable_of_iff (∀ t ∈ p.terms, t.isVariable = t.slot?.isSome)
    ⟨fun slots name mem => Bool.noConfusion (slots _ mem), fun free t mem => by
      cases t with
      | named name => exact absurd mem (free name)
      | _ => rfl⟩

theorem TriplePattern.NameFree.slots_isEmpty {p : TriplePattern} (free : p.NameFree) :
    p.slots.isEmpty = p.isExact := by
  have same : p.slots = [] ↔ ∀ x ∈ p.terms, x.isVariable = false := by
    rw [List.eq_nil_iff_forall_not_mem]
    constructor
    · intro none x mem
      cases x with
      | term _ | reference _ | qname _ => rfl
      | named name => exact absurd mem (free name)
      | slot v => exact absurd (mem_slots.mpr mem) (none v)
    · intro fixed v mem
      cases fixed _ (mem_slots.mp mem)
  rw [Bool.eq_iff_iff, List.isEmpty_iff, same, isExact, List.all_eq_true]
  simp

namespace Planner

/-! ## The greedy order -/

section Order

variable (patterns : List TriplePattern)

def slotsOf (placed : List Nat) : Finset VarId :=
  ((placed.filterMap (patterns[·]?)).flatMap fun p =>
    p.terms.filterMap PatternTerm.slot?).toFinset

/-- How many slots a pattern has in common with those placed. -/
def shared (placed : List Nat) (i : Nat) : Nat :=
  (slotsOf patterns [i] ∩ slotsOf patterns placed).card

/-- One pattern comes before another: it shares more slots with those placed, or as many
and is written earlier. -/
def ComesBefore (placed : List Nat) (i j : Nat) : Prop :=
  shared patterns placed j < shared patterns placed i ∨
    (shared patterns placed j = shared patterns placed i ∧ i < j)

/-- Each pattern comes before all that are left when it is placed. -/
def InTurn : (placed order : List Nat) → Prop
  | _, [] => True
  | placed, i :: rest =>
    (∀ j ∈ rest, ComesBefore patterns placed i j) ∧ InTurn (placed ++ [i]) rest

/-- The numbers of the patterns without variables, as they are written. -/
def exactOnes : List Nat :=
  (List.range patterns.length).filter fun i => patterns[i]?.any TriplePattern.isExact

/-- All patterns, those without variables first and the others in turn. -/
structure IsGreedy (order : List Nat) : Prop where
  perm : order.Perm (List.range patterns.length)
  inTurn : ∃ rest, order = exactOnes patterns ++ rest ∧
    InTurn patterns (exactOnes patterns) rest

end Order

variable {patterns : List TriplePattern} {placed : List Nat} {i j : Nat}

theorem not_mem_exactOnes {rest : List Nat}
    (perm : (exactOnes patterns ++ rest).Perm (List.range patterns.length)) (mem : i ∈ rest) :
    i < patterns.length ∧ i ∉ exactOnes patterns := by
  have distinct : (exactOnes patterns ++ rest).Nodup := perm.nodup_iff.mpr List.nodup_range
  refine ⟨List.mem_range.mp (perm.mem_iff.mp (List.mem_append_right _ mem)), ?_⟩
  intro inFront
  exact (List.nodup_append.mp distinct).2.2 i inFront i mem rfl

theorem ComesBefore.asymm (h : ComesBefore patterns placed i j) :
    ¬ ComesBefore patterns placed j i := by
  unfold ComesBefore at h ⊢
  omega

/-- What is left can be placed in turn in one way only. -/
theorem InTurn.unique {rest rest' : List Nat} (same : rest.Perm rest')
    (h : InTurn patterns placed rest) (h' : InTurn patterns placed rest') : rest = rest' := by
  induction rest generalizing placed rest' with
  | nil => exact same.nil_eq
  | cons i rest ih =>
      cases rest' with
      | nil => exact absurd same.eq_nil (List.cons_ne_nil i rest)
      | cons i' rest' =>
          obtain ⟨first, others⟩ := h
          obtain ⟨first', others'⟩ := h'
          have head : i = i' := by
            by_contra differ
            have left : i' ∈ rest := by
              have mem : i' ∈ i :: rest := same.mem_iff.mpr List.mem_cons_self
              exact (List.mem_cons.mp mem).resolve_left (Ne.symm differ)
            have left' : i ∈ rest' := by
              have mem : i ∈ i' :: rest' := same.mem_iff.mp List.mem_cons_self
              exact (List.mem_cons.mp mem).resolve_left differ
            exact (first i' left).asymm (first' i left')
          subst head
          rw [ih same.cons_inv others others']

/-- **There is one greedy order.** -/
theorem IsGreedy.unique {order order' : List Nat} (h : IsGreedy patterns order)
    (h' : IsGreedy patterns order') : order = order' := by
  obtain ⟨rest, rfl, inTurn⟩ := h.inTurn
  obtain ⟨rest', rfl, inTurn'⟩ := h'.inTurn
  have same : rest.Perm rest' :=
    (List.perm_append_left_iff _).mp (h.perm.trans h'.perm.symm)
  rw [inTurn.unique same inTurn']

/-! ## Candidates -/

theorem mem_slotsOf {v : VarId} :
    v ∈ slotsOf patterns placed ↔
      ∃ i ∈ placed, ∃ p, patterns[i]? = some p ∧ v ∈ p.slots := by
  have found : ∀ p : TriplePattern, v ∈ p.terms.filterMap PatternTerm.slot? ↔ v ∈ p.slots := by
    intro p
    rw [TriplePattern.slots, mem_foldl_insertNew]
    simp
  simp only [slotsOf, List.mem_toFinset, List.mem_flatMap, List.mem_filterMap, found]
  constructor
  · rintro ⟨p, ⟨i, mem, at'⟩, occurs⟩
    exact ⟨i, mem, p, at', occurs⟩
  · rintro ⟨i, mem, p, at', occurs⟩
    exact ⟨p, ⟨i, mem, at'⟩, occurs⟩

theorem mem_slotsOf_append {placed' : List Nat} {v : VarId} :
    v ∈ slotsOf patterns (placed ++ placed') ↔
      v ∈ slotsOf patterns placed ∨ v ∈ slotsOf patterns placed' := by
  simp only [mem_slotsOf, List.mem_append, or_and_right, exists_or]

/-- A candidate stands for the pattern of its number. -/
def Candidate.StandsFor (patterns : List TriplePattern) (c : Candidate) : Prop :=
  ∃ p, patterns[c.index]? = some p ∧ c.slots = p.slots

theorem Candidate.StandsFor.mem_slotsOf {c : Candidate} (h : c.StandsFor patterns) {v : VarId} :
    v ∈ slotsOf patterns [c.index] ↔ v ∈ c.slots := by
  obtain ⟨p, at', slots⟩ := h
  rw [Planner.mem_slotsOf, slots]
  simp [at']

theorem Candidate.StandsFor.score_eq {c : Candidate} (h : c.StandsFor patterns)
    {bound : List VarId} (placing : ∀ v, v ∈ bound ↔ v ∈ slotsOf patterns placed) :
    score bound c = shared patterns placed c.index := by
  have distinct : c.slots.Nodup := by
    obtain ⟨p, -, slots⟩ := h
    rw [slots]
    exact p.nodup_slots
  rw [score, ← List.toFinset_card_of_nodup (distinct.filter _), shared]
  congr 1
  ext v
  simp [h.mem_slotsOf, placing]

theorem numbered_standsFor {c : Candidate} (mem : c ∈ numbered patterns) :
    c.StandsFor patterns := by
  obtain ⟨⟨p, i⟩, entry, rfl⟩ := List.mem_map.mp mem
  exact ⟨p, List.mem_zipIdx_iff_getElem?.mp entry, rfl⟩

theorem numbered_sorted (patterns : List TriplePattern) :
    (numbered patterns).Pairwise fun a b => a.index < b.index := by
  rw [← List.pairwise_map, numbered_index]
  exact List.pairwise_lt_range

theorem fixed_index (free : ∀ p ∈ patterns, p.NameFree) :
    ((numbered patterns).filter fun c => c.slots.isEmpty).map (·.index) = exactOnes patterns := by
  rw [exactOnes, ← numbered_index, List.filter_map]
  congr 1
  refine List.filter_congr fun c mem => ?_
  obtain ⟨p, at', slots⟩ := numbered_standsFor mem
  rw [slots, (free p (List.mem_of_getElem? at')).slots_isEmpty, Function.comp_apply, at']
  rfl

/-! ## The choice of the planner -/

/-- The candidate that is chosen has the highest score, and the smallest number of those
that have it. -/
theorem bestOf_first (bound : List VarId) (best : Candidate) (rest : List Candidate)
    (sorted : (best :: rest).Pairwise fun a b => a.index < b.index) :
    ∀ c ∈ best :: rest, c = bestOf bound best rest ∨
      score bound c < score bound (bestOf bound best rest) ∨
        (score bound c = score bound (bestOf bound best rest) ∧
          (bestOf bound best rest).index < c.index) := by
  induction rest generalizing best with
  | nil =>
      intro c mem
      exact .inl (List.mem_singleton.mp mem)
  | cons d rest ih =>
      obtain ⟨before, sorted'⟩ := List.pairwise_cons.mp sorted
      have ahead : best.index < d.index := before d List.mem_cons_self
      rw [bestOf]
      split
      · next higher =>
          -- The candidate so far is beaten by the next one, which is beaten or chosen.
          intro c mem
          have chosen := ih d sorted'
          rcases List.mem_cons.mp mem with rfl | mem
          · have least := chosen d List.mem_cons_self
            refine .inr (.inl ?_)
            rcases least with same | lower | ⟨same, -⟩
            · rwa [← same]
            · exact higher.trans lower
            · rwa [← same]
          · exact chosen c mem
      · next notHigher =>
          have sorted'' : (best :: rest).Pairwise fun a b => a.index < b.index :=
            List.pairwise_cons.mpr
              ⟨fun c mem => before c (List.mem_cons_of_mem _ mem), sorted'.of_cons⟩
          have chosen := ih best sorted''
          intro c mem
          rcases List.mem_cons.mp mem with rfl | mem
          · exact chosen c List.mem_cons_self
          · rcases List.mem_cons.mp mem with rfl | mem
            · have kept := chosen best List.mem_cons_self
              rcases kept with same | lower | ⟨same, later⟩
              · rw [← same]
                omega
              · omega
              · omega
            · exact chosen c (List.mem_cons_of_mem _ mem)

theorem bestOf_comesBefore {bound : List VarId} {best : Candidate} {rest : List Candidate}
    (sorted : (best :: rest).Pairwise fun a b => a.index < b.index)
    (standing : ∀ c ∈ best :: rest, c.StandsFor patterns)
    (placing : ∀ v, v ∈ bound ↔ v ∈ slotsOf patterns placed)
    (left : j ∈ ((best :: rest).erase (bestOf bound best rest)).map (·.index)) :
    ComesBefore patterns placed (bestOf bound best rest).index j := by
  obtain ⟨c, remains, rfl⟩ := List.mem_map.mp left
  have distinct : (best :: rest).Nodup :=
    sorted.imp fun before same => absurd (congrArg Candidate.index same) before.ne
  obtain ⟨other, mem⟩ := distinct.mem_erase_iff.mp remains
  have chosen := standing _ (bestOf_mem bound best rest)
  rw [ComesBefore, ← chosen.score_eq placing, ← (standing c mem).score_eq placing]
  exact (bestOf_first bound best rest sorted c mem).resolve_left other

/-- **The planner places patterns in turn.** -/
theorem greedy_inTurn (bound : List VarId) (candidates : List Candidate)
    (sorted : candidates.Pairwise fun a b => a.index < b.index)
    (standing : ∀ c ∈ candidates, c.StandsFor patterns)
    (placing : ∀ v, v ∈ bound ↔ v ∈ slotsOf patterns placed) :
    InTurn patterns placed (greedy bound candidates) := by
  fun_induction greedy bound candidates generalizing placed with
  | case1 bound => trivial
  | @case2 bound c rest best ih =>
      have chosen : best ∈ c :: rest := bestOf_mem bound c rest
      refine ⟨fun j later => ?_, ih ?_ ?_ ?_⟩
      · have left := (greedy_perm _ _).mem_iff.mp later
        exact bestOf_comesBefore sorted standing placing left
      · exact sorted.sublist List.erase_sublist
      · exact fun d mem => standing d (List.mem_of_mem_erase mem)
      · intro v
        rw [List.mem_append, mem_slotsOf_append, placing, (standing best chosen).mem_slotsOf]

theorem byConnectivity_isGreedy (free : ∀ p ∈ patterns, p.NameFree) :
    IsGreedy patterns (byConnectivity patterns) where
  perm := byConnectivity_perm patterns
  inTurn := by
    have order : byConnectivity patterns = exactOnes patterns ++
        greedy [] ((numbered patterns).filter fun c => !c.slots.isEmpty) := by
      rw [← fixed_index free, byConnectivity, List.partition_eq_filter_filter]
      rfl
    refine ⟨_, order, greedy_inTurn _ _ ?_ ?_ ?_⟩
    · exact (numbered_sorted patterns).sublist List.filter_sublist
    · exact fun c mem => numbered_standsFor (List.mem_of_mem_filter mem)
    · intro v
      refine ⟨nofun, fun mem => ?_⟩
      -- The patterns in front have no slots.
      obtain ⟨i, placed, p, at', occurs⟩ := mem_slotsOf.mp mem
      have exact := (List.mem_filter.mp placed).2
      rw [at'] at exact
      have none : p.slots.isEmpty = true :=
        (free p (List.mem_of_getElem? at')).slots_isEmpty.trans exact
      rw [List.isEmpty_iff.mp none] at occurs
      cases occurs

end Planner

open Planner

/-- **The plan by connectivity is the greedy order** of the patterns, and no other order is
greedy; the other strategy leaves them as they are written. -/
theorem PlanStrategy.plan_iff_greedy {patterns : List TriplePattern}
    (free : ∀ p ∈ patterns, p.NameFree) :
    (∀ order, PlanStrategy.connectivity.plan patterns = order ↔ IsGreedy patterns order) ∧
      PlanStrategy.declared.plan patterns = List.range patterns.length := by
  refine ⟨fun order => ⟨fun planned => ?_, fun isGreedy => ?_⟩, rfl⟩
  · rw [← planned]
    exact byConnectivity_isGreedy free
  · exact (byConnectivity_isGreedy free).unique isGreedy

/-- Two patterns with a third between them, and one without variables. -/
def linkedPatterns : List TriplePattern :=
  [⟨.slot ⟨0⟩, .term (.iri .xsdString), .slot ⟨1⟩⟩,
    ⟨.term (.iri .xsdString), .term (.iri .xsdString), .qname "x:end"⟩,
    ⟨.slot ⟨2⟩, .slot ⟨3⟩, .slot ⟨2⟩⟩,
    ⟨.slot ⟨1⟩, .reference "q", .slot ⟨2⟩⟩]

theorem linkedPatterns_planned :
    (∀ p ∈ linkedPatterns, p.NameFree) ∧ IsGreedy linkedPatterns [1, 0, 3, 2] := by
  have free : ∀ p ∈ linkedPatterns, p.NameFree := by
    intro p mem name
    simp only [linkedPatterns, List.mem_cons, List.not_mem_nil, or_false] at mem
    rcases mem with rfl | rfl | rfl | rfl <;> simp [TriplePattern.terms]
  exact ⟨free, ((PlanStrategy.plan_iff_greedy free).1 _).mp (by decide +kernel)⟩

end GraphPattern
