/-
# Planning again

Patterns that are written in the order of their plan are planned as they are written.

Writing them down anew changes every number, and with the numbers every choice between
patterns that share as many slots.  What does not change is which slots are shared when a
pattern is placed: `numberBefore` leads from a new number to the old one, and along it the
new list has the slots of the old (`slotsOf_arranged`).  A pattern that came before another
shared more, and still does, or as many, and is now written earlier.  So the order in which
they stand is greedy, and there is only one greedy order.
-/
import GraphPattern.Proofs.Query.Greedy

namespace GraphPattern

namespace Planner

def arrange (patterns : List TriplePattern) (order : List Nat) : List TriplePattern :=
  order.filterMap (patterns[·]?)

/-! ## Numbers before and after -/

section Numbers

variable {patterns patterns' : List TriplePattern} {f : Nat → Nat} {placed rest : List Nat}

theorem slotsOf_arranged (same : ∀ i ∈ placed, patterns'[i]? = patterns[f i]?) :
    slotsOf patterns' placed = slotsOf patterns (placed.map f) := by
  have found : placed.filterMap (patterns'[·]?) = (placed.map f).filterMap (patterns[·]?) := by
    rw [List.filterMap_map]
    exact List.filterMap_congr same
  rw [slotsOf, slotsOf, found]

theorem shared_arranged {i : Nat} (same : ∀ j ∈ placed, patterns'[j]? = patterns[f j]?)
    (here : patterns'[i]? = patterns[f i]?) :
    shared patterns' placed i = shared patterns (placed.map f) (f i) := by
  have single : slotsOf patterns' [i] = slotsOf patterns ([i].map f) := by
    refine slotsOf_arranged ?_
    intro j mem
    rwa [List.mem_singleton.mp mem]
  rw [shared, shared, single, slotsOf_arranged same]
  rfl

/-- Patterns that were placed in turn come in turn where they are written in that order. -/
theorem inTurn_arranged (same : ∀ i ∈ placed ++ rest, patterns'[i]? = patterns[f i]?)
    (sorted : rest.Pairwise (· < ·)) (h : InTurn patterns (placed.map f) (rest.map f)) :
    InTurn patterns' placed rest := by
  induction rest generalizing placed with
  | nil => trivial
  | cons i rest ih =>
      obtain ⟨first, others⟩ := h
      obtain ⟨ahead, sorted'⟩ := List.pairwise_cons.mp sorted
      have before : ∀ j ∈ placed, patterns'[j]? = patterns[f j]? :=
        fun j mem => same j (List.mem_append_left _ mem)
      have here : ∀ j ∈ i :: rest, patterns'[j]? = patterns[f j]? :=
        fun j mem => same j (List.mem_append_right _ mem)
      refine ⟨?_, ih ?_ sorted' ?_⟩
      · intro j later
        have came := first (f j) (List.mem_map_of_mem later)
        rw [ComesBefore, ← shared_arranged before (here i List.mem_cons_self),
          ← shared_arranged before (here j (List.mem_cons_of_mem _ later))] at came
        -- Of two that share as many, the earlier is now the one that came first.
        rcases came with more | ⟨equal, -⟩
        · exact .inl more
        · exact .inr ⟨equal, ahead j later⟩
      · intro j mem
        rw [List.append_assoc] at mem
        exact same j mem
      · rwa [List.map_append]

end Numbers

/-! ## The order of a plan -/

section Order

variable {patterns : List TriplePattern} {order front back rest : List Nat}

/-- The number that a pattern had before it was written at another place. -/
def numberBefore (order : List Nat) (i : Nat) : Nat := order.getD i 0

theorem map_numberBefore (order : List Nat) :
    (List.range order.length).map (numberBefore order) = order := by
  refine List.ext_getElem (by simp) ?_
  intro i inside _
  have inside : i < order.length := by simpa using inside
  simp [numberBefore, inside]

theorem range_split (front back : List Nat) :
    List.range (front ++ back).length =
      List.range front.length ++ List.range' front.length back.length := by
  have split := @List.range'_append_1 0 front.length back.length
  rw [Nat.zero_add] at split
  rw [List.length_append, List.range_eq_range', List.range_eq_range', split]

/-- The numbers of two parts of an order are those that are written first and the others. -/
theorem map_numberBefore_append (front back : List Nat) :
    (List.range front.length).map (numberBefore (front ++ back)) = front ∧
      (List.range' front.length back.length).map (numberBefore (front ++ back)) = back := by
  have all := map_numberBefore (front ++ back)
  rw [range_split, List.map_append] at all
  exact List.append_inj all (by simp)

theorem arrange_cons {i : Nat} {p : TriplePattern} (there : patterns[i]? = some p)
    (order : List Nat) : arrange patterns (i :: order) = p :: arrange patterns order :=
  List.filterMap_cons_some there

/-- Every number of a pattern is a place of the arrangement, and what stands there had the
number before. -/
theorem arrange_spec (known : ∀ i ∈ order, i < patterns.length) :
    (arrange patterns order).length = order.length ∧
      ∀ i < order.length, (arrange patterns order)[i]? = patterns[numberBefore order i]? := by
  induction order with
  | nil => exact ⟨rfl, fun i inside => absurd inside (Nat.not_lt_zero i)⟩
  | cons j order ih =>
      have inside : j < patterns.length := known j List.mem_cons_self
      have there : patterns[j]? = some patterns[j] := List.getElem?_eq_getElem inside
      obtain ⟨size, places⟩ := ih fun i mem => known i (List.mem_cons_of_mem _ mem)
      rw [arrange_cons there]
      refine ⟨congrArg Nat.succ size, ?_⟩
      intro i later
      cases i with
      | zero => exact there.symm
      | succ i => exact places i (Nat.lt_of_succ_lt_succ later)

theorem exactOnes_arrange
    (perm : (exactOnes patterns ++ rest).Perm (List.range patterns.length)) :
    exactOnes (arrange patterns (exactOnes patterns ++ rest)) =
      List.range (exactOnes patterns).length := by
  have known : ∀ i ∈ exactOnes patterns ++ rest, i < patterns.length :=
    fun i mem => List.mem_range.mp (perm.mem_iff.mp mem)
  obtain ⟨first, others⟩ := map_numberBefore_append (exactOnes patterns) rest
  obtain ⟨size, places⟩ := arrange_spec known
  rw [exactOnes, size, List.filter_congr fun i mem => congrArg (Option.any TriplePattern.isExact)
    (places i (List.mem_range.mp mem)), range_split, List.filter_append]
  have kept : ∀ i ∈ List.range (exactOnes patterns).length,
      patterns[numberBefore (exactOnes patterns ++ rest) i]?.any TriplePattern.isExact = true := by
    intro i mem
    have old := List.mem_map_of_mem (f := numberBefore (exactOnes patterns ++ rest)) mem
    rw [first] at old
    exact (List.mem_filter.mp old).2
  have dropped : ∀ i ∈ List.range' (exactOnes patterns).length rest.length,
      ¬ patterns[numberBefore (exactOnes patterns ++ rest) i]?.any TriplePattern.isExact =
        true := by
    intro i mem isExact
    have old := List.mem_map_of_mem (f := numberBefore (exactOnes patterns ++ rest)) mem
    rw [others] at old
    -- All exact ones are in front, and none of them comes again.
    obtain ⟨number, behind⟩ := not_mem_exactOnes perm old
    exact behind (List.mem_filter.mpr ⟨List.mem_range.mpr number, isExact⟩)
  rw [List.filter_eq_self.mpr kept, List.filter_eq_nil_iff.mpr dropped, List.append_nil]

/-- **Patterns that are arranged in a greedy order stand in the greedy order.** -/
theorem IsGreedy.arranged (h : IsGreedy patterns order) :
    IsGreedy (arrange patterns order) (List.range patterns.length) := by
  obtain ⟨rest, rfl, inTurn⟩ := h.inTurn
  have known : ∀ i ∈ exactOnes patterns ++ rest, i < patterns.length :=
    fun i mem => List.mem_range.mp (h.perm.mem_iff.mp mem)
  obtain ⟨first, others⟩ := map_numberBefore_append (exactOnes patterns) rest
  obtain ⟨size, places⟩ := arrange_spec known
  have count : (exactOnes patterns ++ rest).length = patterns.length := by
    rw [h.perm.length_eq, List.length_range]
  have same : ∀ i ∈ List.range (exactOnes patterns).length ++
      List.range' (exactOnes patterns).length rest.length,
      (arrange patterns (exactOnes patterns ++ rest))[i]? =
        patterns[numberBefore (exactOnes patterns ++ rest) i]? := by
    intro i mem
    rw [← range_split] at mem
    exact places i (List.mem_range.mp mem)
  refine ⟨?_, List.range' (exactOnes patterns).length rest.length, ?_, ?_⟩
  · rw [size, count]
  · rw [exactOnes_arrange h.perm, ← range_split, count]
  · rw [exactOnes_arrange h.perm]
    refine inTurn_arranged same List.pairwise_lt_range' ?_
    rw [first, others]
    exact inTurn

end Order

end Planner

open Planner

/-- **Planning is idempotent**: patterns that are arranged by their plan are planned in the
order in which they stand. -/
theorem PlanStrategy.plan_arrange {patterns : List TriplePattern}
    (free : ∀ p ∈ patterns, p.NameFree) :
    PlanStrategy.connectivity.plan (arrange patterns (PlanStrategy.connectivity.plan patterns)) =
      List.range patterns.length := by
  have stands := (byConnectivity_isGreedy free).arranged
  have free' : ∀ p ∈ arrange patterns (PlanStrategy.connectivity.plan patterns), p.NameFree := by
    intro p mem
    obtain ⟨i, -, there⟩ := List.mem_filterMap.mp mem
    exact free p (List.mem_of_getElem? there)
  exact (byConnectivity_isGreedy free').unique stands

/-- Two chains written in turn, with ties in each, and a pattern without variables behind
them. -/
def braidedPatterns : List TriplePattern :=
  [⟨.slot ⟨4⟩, .reference "p", .slot ⟨5⟩⟩,
    ⟨.slot ⟨0⟩, .reference "p", .slot ⟨1⟩⟩,
    ⟨.slot ⟨6⟩, .reference "q", .slot ⟨5⟩⟩,
    ⟨.slot ⟨2⟩, .reference "q", .slot ⟨1⟩⟩,
    ⟨.slot ⟨4⟩, .slot ⟨5⟩, .slot ⟨6⟩⟩,
    ⟨.qname "x:a", .reference "p", .term (.iri .xsdString)⟩]

theorem braidedPatterns_replanned :
    (∀ p ∈ braidedPatterns, p.NameFree) ∧
      PlanStrategy.connectivity.plan braidedPatterns = [5, 0, 4, 2, 1, 3] ∧
      PlanStrategy.connectivity.plan (arrange braidedPatterns [5, 0, 4, 2, 1, 3]) =
        [0, 1, 2, 3, 4, 5] := by
  have free : ∀ p ∈ braidedPatterns, p.NameFree := by decide
  have planned : PlanStrategy.connectivity.plan braidedPatterns = [5, 0, 4, 2, 1, 3] := by
    decide +kernel
  have again := PlanStrategy.plan_arrange free
  rw [planned] at again
  exact ⟨free, planned, again⟩

end GraphPattern
