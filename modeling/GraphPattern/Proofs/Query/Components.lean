/-
# Connected patterns stand together

Take the patterns with variables, and an edge between two that share a slot.  In the greedy
order the connected components of this graph are contiguous: a pattern that shares nothing
with those placed, a *root*, is only placed when no pattern that is left shares anything
with them either, so whatever was placed since the last root is then a whole component.

`InTurn.grouped` cuts the order into blocks at its roots and says this of the blocks without
the graph; `Grouped.isBlock` finds the component of each.  In any order of the patterns the
first of a component is a root (`exists_root`), so no order has fewer roots than the graph
has components, and the plan has just as many.
-/
import GraphPattern.Proofs.Query.Greedy
import Mathlib.Combinatorics.SimpleGraph.Connectivity.Connected
import Mathlib.Data.List.NodupEquivFin
import Mathlib.SetTheory.Cardinal.Finite

namespace GraphPattern

namespace Planner

/-! ## Shared slots -/

section Graph

variable (patterns : List TriplePattern)

def hasVariable (i : Nat) : Bool := patterns[i]?.any fun p => !p.isExact

/-- The number of a pattern with a variable. -/
abbrev OpenPattern := { i : Nat // hasVariable patterns i = true }

/-- Two patterns have a slot in common. -/
def Shares (i j : Nat) : Prop := ∃ v, v ∈ slotsOf patterns [i] ∧ v ∈ slotsOf patterns [j]

/-- Patterns with variables, with an edge between two that share a slot. -/
def sharingGraph : SimpleGraph (OpenPattern patterns) where
  Adj a b := a ≠ b ∧ Shares patterns a b
  symm := ⟨fun _ _ ⟨apart, v, left, right⟩ => ⟨apart.symm, v, right, left⟩⟩
  loopless := ⟨fun _ ⟨apart, _⟩ => apart rfl⟩

/-- The patterns with variables that share no slot with any that is placed before them. -/
def rootsAfter : (placed order : List Nat) → List Nat
  | _, [] => []
  | placed, i :: rest =>
    if hasVariable patterns i ∧ shared patterns placed i = 0 then
      i :: rootsAfter (placed ++ [i]) rest
    else rootsAfter (placed ++ [i]) rest

/-- The patterns of an order that start a new product: they have variables, and share no
slot with those before them. -/
def roots (order : List Nat) : List Nat := rootsAfter patterns [] order

/-- Every element but the first shares a slot with an earlier one. -/
def Linked (block : List Nat) : Prop :=
  ∀ front j rest, block = front ++ j :: rest → front ≠ [] → ∃ i ∈ front, Shares patterns i j

/-- The patterns of a component, the earliest of them first, and every other behind one that
it shares a slot with. -/
structure IsBlock (C : (sharingGraph patterns).ConnectedComponent) (block : List Nat) : Prop where
  members : ∀ i, i ∈ block ↔ ∃ h : hasVariable patterns i = true, ⟨i, h⟩ ∈ C
  earliest : ∃ i rest, block = i :: rest ∧ ∀ j ∈ rest, i < j
  linked : Linked patterns block

end Graph

variable {patterns : List TriplePattern} {placed order block : List Nat} {i j : Nat}

theorem Shares.symm (h : Shares patterns i j) : Shares patterns j i := by
  obtain ⟨v, left, right⟩ := h
  exact ⟨v, right, left⟩

theorem Shares.opened (h : Shares patterns i j) : hasVariable patterns i = true := by
  obtain ⟨v, left, -⟩ := h
  obtain ⟨i', mem, p, there, occurs⟩ := mem_slotsOf.mp left
  obtain rfl := List.mem_singleton.mp mem
  have notExact : p.isExact ≠ true := by
    intro isExact
    have fixed := List.all_eq_true.mp isExact _ (TriplePattern.mem_slots.mp occurs)
    cases fixed
  rw [hasVariable, there]
  simpa using notExact

theorem shared_eq_zero :
    shared patterns placed i = 0 ↔ ∀ j ∈ placed, ¬ Shares patterns i j := by
  have parts : ∀ v, v ∈ slotsOf patterns placed ↔ ∃ j ∈ placed, v ∈ slotsOf patterns [j] := by
    intro v
    simp [mem_slotsOf]
  rw [shared, Finset.card_eq_zero, Finset.eq_empty_iff_forall_notMem]
  constructor
  · rintro none j mem ⟨v, left, right⟩
    exact none v (Finset.mem_inter.mpr ⟨left, (parts v).mpr ⟨j, mem, right⟩⟩)
  · intro none v mem
    obtain ⟨left, right⟩ := Finset.mem_inter.mp mem
    obtain ⟨j, mem, right⟩ := (parts v).mp right
    exact none j mem ⟨v, left, right⟩

theorem rootsAfter_append (placed front rest : List Nat) :
    rootsAfter patterns placed (front ++ rest) =
      rootsAfter patterns placed front ++ rootsAfter patterns (placed ++ front) rest := by
  induction front generalizing placed with
  | nil => simp [rootsAfter]
  | cons i front ih =>
      rw [List.cons_append, rootsAfter, rootsAfter, ih, List.append_cons placed i front]
      split <;> rfl

/-! ## Blocks -/

theorem linked_singleton (i : Nat) : Linked patterns [i] := by
  intro front j rest parts some
  have short := congrArg List.length parts
  have long := List.length_pos_of_ne_nil some
  simp only [List.length_append, List.length_cons, List.length_nil] at short
  omega

theorem Linked.concat (h : Linked patterns block) (joins : ∃ i ∈ block, Shares patterns i j) :
    Linked patterns (block ++ [j]) := by
  intro front k rest parts some
  rcases List.eq_nil_or_concat rest with rfl | ⟨rest, last, rfl⟩
  · obtain ⟨rfl, same⟩ := List.append_inj' parts rfl
    cases same
    exact joins
  · rw [List.concat_eq_append, ← List.cons_append, ← List.append_assoc] at parts
    exact h front k rest (List.append_inj' parts rfl).1 some

/-- Blocks that start with their smallest number, hang together, follow each other by their
smallest numbers, and share nothing. -/
structure Grouped (patterns : List TriplePattern) (blocks : List (List Nat)) : Prop where
  earliest : ∀ b ∈ blocks, ∃ i rest, b = i :: rest ∧ ∀ j ∈ rest, i < j
  linked : ∀ b ∈ blocks, Linked patterns b
  ordered : blocks.Pairwise fun b b' => ∃ i ∈ b, ∀ j ∈ b', i < j
  apart : blocks.Pairwise fun b b' => ∀ i ∈ b, ∀ j ∈ b', ¬ Shares patterns i j

theorem Grouped.nil : Grouped patterns [] := ⟨nofun, nofun, .nil, .nil⟩

theorem Grouped.cons {blocks : List (List Nat)} {rest : List Nat} (h : Grouped patterns blocks)
    (earliest : ∀ j ∈ rest ++ blocks.flatten, i < j) (linked : Linked patterns (i :: rest))
    (apart : ∀ k ∈ i :: rest, ∀ j ∈ blocks.flatten, ¬ Shares patterns k j) :
    Grouped patterns ((i :: rest) :: blocks) where
  earliest := by
    refine List.forall_mem_cons.mpr ⟨⟨i, rest, rfl, ?_⟩, h.earliest⟩
    intro j mem
    exact earliest j (List.mem_append_left _ mem)
  linked := List.forall_mem_cons.mpr ⟨linked, h.linked⟩
  ordered := by
    refine .cons ?_ h.ordered
    intro b mem
    refine ⟨i, List.mem_cons_self, ?_⟩
    intro j inside
    exact earliest j (List.mem_append_right _ (List.mem_flatten_of_mem mem inside))
  apart := by
    refine .cons ?_ h.apart
    intro b mem k left j inside
    exact apart k left j (List.mem_flatten_of_mem mem inside)

/-- When a root is placed, nothing that is left shares a slot with what is placed, and all of
it is written later. -/
theorem InTurn.root {rest : List Nat} (h : InTurn patterns placed (i :: rest))
    (root : shared patterns placed i = 0) :
    (∀ j ∈ i :: rest, ∀ k ∈ placed, ¬ Shares patterns k j) ∧ ∀ j ∈ rest, i < j := by
  have last : ∀ j ∈ rest, shared patterns placed j = 0 ∧ i < j := by
    intro j later
    have before := h.1 j later
    rw [ComesBefore, root] at before
    omega
  refine ⟨?_, fun j later => (last j later).2⟩
  intro j mem k before shares
  have nothing : shared patterns placed j = 0 := by
    rcases List.mem_cons.mp mem with rfl | later
    · exact root
    · exact (last j later).1
  exact shared_eq_zero.mp nothing k before shares.symm

/-- **What is placed in turn comes in blocks.**  The block `first :: current` was begun, and
what was placed before it shares nothing with what is left: some of this ends the block, and
the others make blocks of their own, each behind a root. -/
theorem InTurn.grouped {before current rest : List Nat} {first : Nat}
    (inTurn : InTurn patterns (before ++ first :: current) rest)
    (earliest : ∀ j ∈ current ++ rest, first < j) (linked : Linked patterns (first :: current))
    (apart : ∀ j ∈ rest, ∀ k ∈ before, ¬ Shares patterns k j)
    (opened : ∀ j ∈ rest, hasVariable patterns j = true) :
    ∃ tail blocks, rest = tail ++ blocks.flatten ∧
      Grouped patterns ((first :: (current ++ tail)) :: blocks) ∧
      (rootsAfter patterns (before ++ first :: current) rest).length = blocks.length := by
  induction rest generalizing before first current with
  | nil =>
      refine ⟨[], [], rfl, Grouped.nil.cons ?_ ?_ nofun, rfl⟩
      · simpa using earliest
      · rwa [List.append_nil]
  | cons i rest ih =>
      have opened' : ∀ j ∈ rest, hasVariable patterns j = true :=
        fun j mem => opened j (List.mem_cons_of_mem _ mem)
      by_cases root : shared patterns (before ++ first :: current) i = 0
      · -- The block is a whole component, and the next one begins.
        obtain ⟨nothing, later⟩ := inTurn.root root
        obtain ⟨tail, blocks, rfl, grouped, count⟩ := ih inTurn.2 later
          (linked_singleton i) (fun j mem => nothing j (List.mem_cons_of_mem _ mem)) opened'
        refine ⟨[], (i :: tail) :: blocks, rfl, grouped.cons ?_ ?_ ?_, ?_⟩
        · simpa using earliest
        · rwa [List.append_nil]
        · rw [List.append_nil]
          exact fun k mem j inside => nothing j inside k (List.mem_append_right _ mem)
        · rw [rootsAfter, if_pos ⟨opened i List.mem_cons_self, root⟩, List.length_cons, count,
            List.length_cons]
      · -- The pattern shares a slot with one of the block.
        have joins : ∃ k ∈ first :: current, Shares patterns k i := by
          rw [shared_eq_zero] at root
          push Not at root
          obtain ⟨k, mem, shares⟩ := root
          rcases List.mem_append.mp mem with old | mem
          · exact absurd shares.symm (apart i List.mem_cons_self k old)
          · exact ⟨k, mem, shares.symm⟩
        have moved : before ++ first :: current ++ [i] = before ++ first :: (current ++ [i]) := by
          simp
        have inTurn' := inTurn.2
        rw [moved] at inTurn'
        obtain ⟨tail, blocks, rfl, grouped, count⟩ := ih inTurn' (by simpa using earliest)
          (linked.concat joins) (fun j mem => apart j (List.mem_cons_of_mem _ mem)) opened'
        refine ⟨i :: tail, blocks, rfl, ?_, ?_⟩
        · rwa [List.append_assoc] at grouped
        · rw [rootsAfter, if_neg fun h => root h.2, moved, count]

theorem rootsAfter_exact (fixed : ∀ i ∈ order, hasVariable patterns i = false)
    (placed : List Nat) : rootsAfter patterns placed order = [] := by
  induction order generalizing placed with
  | nil => rfl
  | cons i order ih =>
      have exact : hasVariable patterns i = false := fixed i List.mem_cons_self
      rw [rootsAfter, if_neg fun h => Bool.noConfusion (h.1.symm.trans exact)]
      exact ih (fun j mem => fixed j (List.mem_cons_of_mem _ mem)) _

theorem mem_exactOnes : i ∈ exactOnes patterns ↔
    i < patterns.length ∧ hasVariable patterns i = false := by
  rw [exactOnes, List.mem_filter, List.mem_range, hasVariable]
  refine and_congr_right ?_
  intro inside
  rw [List.getElem?_eq_getElem inside]
  simp

theorem lt_of_hasVariable (h : hasVariable patterns i = true) : i < patterns.length := by
  by_contra outside
  rw [hasVariable, List.getElem?_eq_none (Nat.le_of_not_lt outside)] at h
  cases h

/-- **A greedy order consists of blocks**, each behind a root. -/
theorem IsGreedy.grouped (h : IsGreedy patterns order) :
    ∃ blocks, order = exactOnes patterns ++ blocks.flatten ∧ Grouped patterns blocks ∧
      (∀ i, i ∈ blocks.flatten ↔ hasVariable patterns i = true) ∧
      (roots patterns order).length = blocks.length := by
  obtain ⟨rest, rfl, inTurn⟩ := h.inTurn
  have opened : ∀ i, i ∈ rest ↔ hasVariable patterns i = true := by
    intro i
    constructor
    · intro mem
      obtain ⟨inside, behind⟩ := not_mem_exactOnes h.perm mem
      by_contra fixed
      exact behind (mem_exactOnes.mpr ⟨inside, by simpa using fixed⟩)
    · intro open'
      have all := h.perm.mem_iff.mpr (List.mem_range.mpr (lt_of_hasVariable open'))
      refine (List.mem_append.mp all).resolve_left ?_
      intro fixed
      exact Bool.noConfusion (open'.symm.trans (mem_exactOnes.mp fixed).2)
  have fixed : ∀ i ∈ exactOnes patterns, hasVariable patterns i = false :=
    fun i mem => (mem_exactOnes.mp mem).2
  have count : roots patterns (exactOnes patterns ++ rest) =
      rootsAfter patterns (exactOnes patterns) rest := by
    rw [roots, rootsAfter_append, rootsAfter_exact fixed]
    rfl
  rw [count]
  cases rest with
  | nil => exact ⟨[], rfl, .nil, opened, rfl⟩
  | cons i rest =>
      have alone : ∀ j, ∀ k ∈ exactOnes patterns, ¬ Shares patterns k j := by
        intro j k mem shares
        exact Bool.noConfusion (shares.opened.symm.trans (fixed k mem))
      have root : shared patterns (exactOnes patterns) i = 0 :=
        shared_eq_zero.mpr fun k mem shares => alone i k mem shares.symm
      obtain ⟨-, later⟩ := inTurn.root root
      obtain ⟨tail, blocks, rfl, grouped, count⟩ := InTurn.grouped inTurn.2 later
        (linked_singleton i) (fun j _ => alone j)
        fun j mem => (opened j).mp (List.mem_cons_of_mem _ mem)
      refine ⟨(i :: tail) :: blocks, rfl, grouped, opened, ?_⟩
      rw [rootsAfter, if_pos ⟨(opened i).mp List.mem_cons_self, root⟩, List.length_cons, count,
        List.length_cons]

/-! ## Components -/

section Components

variable {a b : OpenPattern patterns} {blocks : List (List Nat)}

theorem Shares.reachable (h : Shares patterns a b) : (sharingGraph patterns).Reachable a b := by
  by_cases same : a = b
  · rw [same]
  · have adjacent : (sharingGraph patterns).Adj a b := ⟨same, h⟩
    exact adjacent.reachable

theorem Linked.reachable {rest : List Nat} (h : Linked patterns (a.1 :: rest))
    (mem : b.1 ∈ a.1 :: rest) : (sharingGraph patterns).Reachable a b := by
  obtain ⟨front, back, parts⟩ := List.append_of_mem mem
  clear mem
  -- By the place in the block: what it is linked to stands further to the front.
  induction size : front.length using Nat.strongRec generalizing front back b with
  | ind n ih =>
      cases front with
      | nil =>
          obtain ⟨same, -⟩ := List.cons.inj parts
          rw [Subtype.ext same]
      | cons x front =>
          obtain ⟨k, earlier, shares⟩ := h (x :: front) b.1 back parts (List.cons_ne_nil _ _)
          obtain ⟨front', back', parts'⟩ := List.append_of_mem earlier
          let c : OpenPattern patterns := ⟨k, shares.opened⟩
          have shorter : front'.length < n := by
            rw [← size, parts', List.length_append, List.length_cons]
            omega
          have whole : a.1 :: rest = front' ++ c.1 :: (back' ++ b.1 :: back) := by
            rw [parts, parts', List.append_assoc, List.cons_append]
          have upTo := ih front'.length shorter (b := c) front' _ whole rfl
          exact upTo.trans (Shares.reachable (a := c) shares)

/-- Nothing leads out of a block: what shares a slot with one of its patterns is in it. -/
theorem Grouped.closed (h : Grouped patterns blocks)
    (all : ∀ i, i ∈ blocks.flatten ↔ hasVariable patterns i = true) (mem : block ∈ blocks)
    (inside : i ∈ block) (shares : Shares patterns i j) : j ∈ block := by
  obtain ⟨block', mem', inside'⟩ := List.mem_flatten.mp ((all j).mpr shares.symm.opened)
  by_cases same : block = block'
  · rwa [same]
  · have symm : Std.Symm fun b b' : List Nat => ∀ i ∈ b, ∀ j ∈ b', ¬ Shares patterns i j :=
      ⟨fun b b' none i left j right shares => none j right i left shares.symm⟩
    exact absurd shares (h.apart.forall mem mem' same i inside j inside')

/-- **Every block is a component.** -/
theorem Grouped.isBlock (h : Grouped patterns blocks)
    (all : ∀ i, i ∈ blocks.flatten ↔ hasVariable patterns i = true) (mem : block ∈ blocks) :
    ∃ C, IsBlock patterns C block := by
  obtain ⟨i, rest, rfl, first⟩ := h.earliest block mem
  have opened := (all i).mp (List.mem_flatten_of_mem mem List.mem_cons_self)
  let a : OpenPattern patterns := ⟨i, opened⟩
  refine ⟨(sharingGraph patterns).connectedComponentMk a, ?_, ⟨i, rest, rfl, first⟩,
    h.linked _ mem⟩
  intro j
  constructor
  · intro inside
    have open' := (all j).mp (List.mem_flatten_of_mem mem inside)
    refine ⟨open', SimpleGraph.ConnectedComponent.sound ?_⟩
    exact (Linked.reachable (a := a) (b := ⟨j, open'⟩) (h.linked _ mem) inside).symm
  · rintro ⟨open', component⟩
    have connected := (SimpleGraph.ConnectedComponent.exact component).symm
    rw [SimpleGraph.reachable_iff_reflTransGen] at connected
    have stays : ∀ b : OpenPattern patterns,
        Relation.ReflTransGen (sharingGraph patterns).Adj a b → b.1 ∈ i :: rest := by
      intro b path
      induction path with
      | refl => exact List.mem_cons_self
      | tail _ step ih => exact h.closed all mem ih step.2
    exact stays _ connected

/-- The components of blocks, in the order of the blocks, are all different. -/
theorem exists_components (each : ∀ b ∈ blocks, ∃ C, IsBlock patterns C b)
    (ordered : blocks.Pairwise fun b b' => ∃ i ∈ b, ∀ j ∈ b', i < j) :
    ∃ components, components.Nodup ∧ List.Forall₂ (IsBlock patterns) components blocks := by
  induction blocks with
  | nil => exact ⟨[], .nil, .nil⟩
  | cons b blocks ih =>
      obtain ⟨first, ordered⟩ := List.pairwise_cons.mp ordered
      obtain ⟨⟨C, isBlock⟩, each⟩ := List.forall_mem_cons.mp each
      obtain ⟨components, distinct, found⟩ := ih each ordered
      refine ⟨C :: components, List.nodup_cons.mpr ⟨?_, distinct⟩, .cons isBlock found⟩
      intro again
      obtain ⟨n, inside, rfl⟩ := List.mem_iff_getElem.mp again
      have inside' : n < blocks.length := found.length_eq ▸ inside
      have other := found.get inside inside'
      obtain ⟨i, mem, before⟩ := first _ (List.getElem_mem inside')
      exact Nat.lt_irrefl i (before i ((other.members i).mpr ((isBlock.members i).mp mem)))

end Components

/-! ## Roots -/

theorem mem_roots {front rest : List Nat} (opened : hasVariable patterns i = true)
    (alone : ∀ j ∈ front, ¬ Shares patterns i j) : i ∈ roots patterns (front ++ i :: rest) := by
  have root : hasVariable patterns i = true ∧ shared patterns ([] ++ front) i = 0 :=
    ⟨opened, shared_eq_zero.mpr alone⟩
  rw [roots, rootsAfter_append, rootsAfter, if_pos root]
  exact List.mem_append_right _ List.mem_cons_self

/-- In any order of the patterns the first one of a component is a root. -/
theorem exists_root (perm : order.Perm (List.range patterns.length))
    (C : (sharingGraph patterns).ConnectedComponent) :
    ∃ i ∈ roots patterns order, ∃ opened : hasVariable patterns i = true, ⟨i, opened⟩ ∈ C := by
  classical
  obtain ⟨a, member⟩ := C.nonempty_supp
  have placed : a.1 ∈ order :=
    perm.mem_iff.mpr (List.mem_range.mpr (lt_of_hasVariable a.2))
  let inside : Nat → Bool := fun i =>
    decide (∃ opened : hasVariable patterns i = true, ⟨i, opened⟩ ∈ C)
  have found : (order.find? inside).isSome := by
    rw [List.find?_isSome]
    exact ⟨a.1, placed, decide_eq_true ⟨a.2, member⟩⟩
  obtain ⟨i, first⟩ := Option.isSome_iff_exists.mp found
  obtain ⟨here, front, rest, rfl, before⟩ := List.find?_eq_some_iff_append.mp first
  obtain ⟨opened, component⟩ := of_decide_eq_true here
  refine ⟨i, mem_roots opened ?_, opened, component⟩
  intro j mem shares
  -- What it shares a slot with would be of the same component, and earlier.
  have open' := shares.symm.opened
  have connected := Shares.reachable (a := ⟨j, open'⟩) (b := ⟨i, opened⟩) shares.symm
  have outside : inside j = false := by simpa using before j mem
  have same : ⟨j, open'⟩ ∈ C := (SimpleGraph.ConnectedComponent.sound connected).trans component
  exact of_decide_eq_false outside ⟨open', same⟩

theorem card_le_roots (perm : order.Perm (List.range patterns.length)) :
    Nat.card (sharingGraph patterns).ConnectedComponent ≤ (roots patterns order).length := by
  choose root isRoot opened member using exists_root perm
  have injective : Function.Injective fun C =>
      (⟨root C, List.mem_toFinset.mpr (isRoot C)⟩ : (roots patterns order).toFinset) := by
    intro C D same
    have same : root C = root D := congrArg Subtype.val same
    have inside := member C
    have inside' := member D
    simp only [← same] at inside'
    exact SimpleGraph.ConnectedComponent.eq_of_common_vertex inside inside'
  calc Nat.card (sharingGraph patterns).ConnectedComponent
      ≤ Nat.card (roots patterns order).toFinset := Nat.card_le_card_of_injective _ injective
    _ = (roots patterns order).toFinset.card := by rw [Nat.card_eq_fintype_card, Fintype.card_coe]
    _ ≤ (roots patterns order).length := List.toFinset_card_le _

end Planner

open Planner

/-- **The plan by connectivity has no avoidable product.**  Behind the patterns without
variables each component is one contiguous block, and the blocks follow each other by their
smallest numbers.  So it has one root for each component, and no order has fewer. -/
theorem PlanStrategy.plan_by_components {patterns : List TriplePattern}
    (free : ∀ p ∈ patterns, p.NameFree) :
    (∃ (components : List (sharingGraph patterns).ConnectedComponent) (blocks : List (List Nat)),
      PlanStrategy.connectivity.plan patterns = exactOnes patterns ++ blocks.flatten ∧
      components.Nodup ∧ (∀ C, C ∈ components) ∧
      List.Forall₂ (IsBlock patterns) components blocks ∧
      blocks.Pairwise fun b b' => ∃ i ∈ b, ∀ j ∈ b', i < j) ∧
    (roots patterns (PlanStrategy.connectivity.plan patterns)).length =
      Nat.card (sharingGraph patterns).ConnectedComponent ∧
    ∀ order : List Nat, order.Perm (List.range patterns.length) →
      Nat.card (sharingGraph patterns).ConnectedComponent ≤ (roots patterns order).length := by
  obtain ⟨blocks, planned, grouped, all, count⟩ := (byConnectivity_isGreedy free).grouped
  obtain ⟨components, distinct, found⟩ :=
    exists_components (fun b mem => grouped.isBlock all mem) grouped.ordered
  have complete : ∀ C, C ∈ components := by
    intro C
    obtain ⟨a, member⟩ := C.nonempty_supp
    obtain ⟨b, mem, inside⟩ := List.mem_flatten.mp ((all a.1).mpr a.2)
    obtain ⟨n, bound, rfl⟩ := List.mem_iff_getElem.mp mem
    have bound' : n < components.length := found.length_eq ▸ bound
    obtain ⟨_, component⟩ := ((found.get bound' bound).members a.1).mp inside
    rw [SimpleGraph.ConnectedComponent.eq_of_common_vertex member component]
    exact List.getElem_mem bound'
  refine ⟨⟨components, blocks, planned, distinct, complete, found, grouped.ordered⟩, ?_, ?_⟩
  · classical
    have size := Nat.card_congr (distinct.getEquivOfForallMemList _ complete)
    rw [Nat.card_fin] at size
    rw [← size, found.length_eq]
    exact count
  · intro order perm
    exact card_le_roots perm

/-- Two chains that are written in turn, with a pattern without variables between them. -/
def twoChains : List TriplePattern :=
  [⟨.slot ⟨0⟩, .reference "p", .slot ⟨1⟩⟩,
    ⟨.slot ⟨3⟩, .reference "p", .slot ⟨4⟩⟩,
    ⟨.qname "x:a", .reference "p", .term (.iri .xsdString)⟩,
    ⟨.slot ⟨1⟩, .reference "q", .slot ⟨2⟩⟩,
    ⟨.slot ⟨4⟩, .reference "q", .slot ⟨4⟩⟩]

theorem twoChains_components :
    (∀ p ∈ twoChains, p.NameFree) ∧
      PlanStrategy.connectivity.plan twoChains = [2, 0, 3, 1, 4] ∧
      Nat.card (sharingGraph twoChains).ConnectedComponent = 2 ∧
      roots twoChains [0, 1, 2, 3, 4] = [0, 1] := by
  have free : ∀ p ∈ twoChains, p.NameFree := by decide
  have planned : PlanStrategy.connectivity.plan twoChains = [2, 0, 3, 1, 4] := by decide +kernel
  have components := (PlanStrategy.plan_by_components free).2.1
  rw [planned] at components
  exact ⟨free, planned, components.symm.trans (by decide +kernel), by decide +kernel⟩

end GraphPattern
