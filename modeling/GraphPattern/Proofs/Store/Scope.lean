/-
# A view through graphs is a smaller store

A view of a store through some of its graphs shows the triples of these graphs, each once and
in the order of its first occurrence; without any name it shows the whole store.  It answers
every selector as a store does into which what it shows (`Store.visible`) was inserted in
that order: the one goes through its graphs and the other through its indices, but both
choose from the same list.  A join cannot tell the two apart.
-/
import GraphPattern.Proofs.Store.Graph
import GraphPattern.Query.Lifecycle

namespace GraphPattern

/-! ## Triples, each once -/

theorem distinctTriples_eq (triples : List Triple) :
    distinctTriples triples = triples.foldl insertNew [] := rfl

/-- Inserting triples one by one keeps the first occurrence of each. -/
theorem TripleList.ofEdits_insert (triples : List Triple) :
    TripleList.ofEdits (triples.map .insert) = distinctTriples triples := by
  have one : (fun l t => TripleList.after l (.insert t)) = insertNew := by
    funext l t
    by_cases known : t ∈ l <;> simp [TripleList.after, TripleList.attempt, insertNew, known]
  rw [TripleList.ofEdits, List.foldl_map, one, distinctTriples_eq]

namespace Store

variable {s : Store} {names : List String} {p : TripleSelector} {t : Triple}

/-! ## What a view shows -/

def concatenation (s : Store) (names : List String) : List Triple := names.flatMap s.members

def visible (s : Store) (names : List String) : List Triple :=
  if names = [] then s.triples else distinctTriples (s.concatenation names)

theorem mem_concatenation : t ∈ s.concatenation names ↔
    ∃ name ∈ names, ∃ triples, s.graph name = .ok triples ∧ t ∈ triples := by
  rw [concatenation, List.mem_flatMap]
  constructor
  · rintro ⟨name, listed, mem⟩
    refine ⟨name, listed, s.members name, ?_, mem⟩
    have known : name ∈ s.graphNames := by
      unfold members at mem
      refine OrderedMap.mem_keys.mpr ?_
      cases there : s.graphs.get? name with
      | none => simp [there] at mem
      | some triples => rfl
    rw [graph_eq, if_pos known]
  · rintro ⟨name, listed, triples, found, mem⟩
    refine ⟨name, listed, ?_⟩
    rw [graph_eq] at found
    split at found
    · cases found
      exact mem
    · cases found

theorem scoped_graphs (s : Store) (names : List String) :
    (s.scoped names).graphs.flatten = s.concatenation names := by
  show (names.filterMap s.graphs.get?).flatten = names.flatMap s.members
  induction names with
  | nil => rfl
  | cons name names ih =>
      rw [List.flatMap_cons, ← ih]
      cases there : s.graphs.get? name with
      | none =>
          have none : s.members name = [] := by rw [members, there]; rfl
          rw [List.filterMap_cons_none there, none, List.nil_append]
      | some triples =>
          have some : s.members name = triples := by rw [members, there]; rfl
          rw [List.filterMap_cons_some there, some, List.flatten_cons]

theorem WellIndexed.scoped_select (h : s.WellIndexed) (names : List String) (p : TripleSelector) :
    (s.scoped names).select p = (s.visible names).filter p.selects := by
  cases names with
  | nil => exact h.select_eq p
  | cons name names =>
      rw [visible, if_neg (List.cons_ne_nil name names), distinctTriples_eq,
        filter_foldl_insertNew, ← scoped_graphs]
      rfl

def small (s : Store) (names : List String) : Store := ofEdits ((s.visible names).map .insert)

theorem WellIndexed.nodup_visible (h : s.WellIndexed) (names : List String) :
    (s.visible names).Nodup := by
  unfold visible
  split
  · exact h.distinct
  · exact nodup_foldl_insertNew .nil _

theorem WellIndexed.small_triples (h : s.WellIndexed) (names : List String) :
    (s.small names).triples = s.visible names := by
  have distinct : ([] ++ s.visible names).Nodup := h.nodup_visible names
  rw [small, ofEdits_triples, TripleList.ofEdits_insert, distinctTriples_eq,
    foldl_insertNew_of_nodup distinct, List.nil_append]

/-- A view and the store of what it shows are the same source. -/
theorem WellIndexed.scoped_source (h : s.WellIndexed) (names : List String) :
    (s.scoped names).source = (s.small names).source := by
  funext p
  have plain : (s.small names).select p = (s.small names).triples.filter p.selects :=
    (wellIndexed_ofEdits ((s.visible names).map .insert)).select_eq p
  show Except.ok ((s.scoped names).select p) = .ok ((s.small names).select p)
  rw [h.scoped_select, plain, h.small_triples]

/-- **A view through graphs is a smaller store.**  Without names it answers as the store
itself.  With names its cursors yield the triples that agree with the selector and are in a
graph of one of the names, each once, in the order of their first occurrence in these graphs,
and all of them are in the store; so a list of names that are all unknown yields nothing.
Every join, whichever query has started it, delivers the same over the view as over a new
store into which what the view shows was inserted. -/
theorem scoped_as_store (edits : List StoreEdit) (names : List String) :
    let s := ofEdits edits
    (names = [] → ∀ p, (s.scoped names).source p = s.source p) ∧
      (names ≠ [] → ∀ p, ∃ found, (s.scoped names).source p = .ok found ∧
        let yielded := (Cursor.ofList found).walk
        yielded.Nodup ∧
        (∀ t, t ∈ yielded ↔ p.selects t = true ∧
          ∃ name ∈ names, ∃ triples, s.graph name = .ok triples ∧ t ∈ triples) ∧
        (yielded.Pairwise fun t u =>
          (s.concatenation names).idxOf t < (s.concatenation names).idxOf u) ∧
        ∀ t ∈ yielded, s.contains t = true) ∧
      (s.small names).triples = s.visible names ∧
      ∀ (j : Started) (faults : FaultPlan),
        JoinState.drain j.plan (.ofSource (s.scoped names).source faults) j.join =
          JoinState.drain j.plan (.ofSource (s.small names).source faults) j.join := by
  intro s
  have indexed : s.WellIndexed := wellIndexed_ofEdits edits
  have follows : s.GraphsFollow edits := graphsFollow_ofEdits edits
  refine ⟨?_, fun some p => ?_, indexed.small_triples names, fun j faults => ?_⟩
  · rintro rfl p
    rfl
  · refine ⟨(s.scoped names).select p, rfl, ?_⟩
    have chosen : (s.scoped names).select p =
        (distinctTriples (s.concatenation names)).filter p.selects := by
      rw [indexed.scoped_select, visible, if_neg some]
    have mem : ∀ t, t ∈ (s.scoped names).select p ↔ p.selects t = true ∧
        t ∈ s.concatenation names := fun t => by
      rw [chosen, List.mem_filter, distinctTriples_eq, mem_foldl_insertNew, and_comm]
      simp
    rw [Cursor.walk_ofList]
    refine ⟨?_, fun t => ?_, ?_, fun t yields => ?_⟩
    · rw [chosen]
      exact (nodup_foldl_insertNew .nil _).sublist List.filter_sublist
    · rw [mem, mem_concatenation]
    · rw [chosen]
      exact (ordered_distinct (s.concatenation names)).sublist List.filter_sublist
    · obtain ⟨name, -, known⟩ := List.mem_flatMap.mp ((mem t).mp yields).2
      exact decide_eq_true (follows.stored name t known)
  · rw [indexed.scoped_source]

/-- Two graphs have a triple in common, which is seen where it comes first; the third triple
of the store is in neither graph. -/
theorem overlapping_graphs :
    let node (id : String) (h : BlankNode.isId id = true) : Subject := .blank ⟨id, h⟩
    let t : Triple := ⟨node "a" (by decide), .xsdString, .iri .xsdString⟩
    let u : Triple := ⟨node "b" (by decide), .xsdString, .iri .xsdString⟩
    let v : Triple := ⟨node "c" (by decide), .xsdString, .iri .xsdString⟩
    let s := ofEdits [.insertQuad ⟨t, some .xsdString⟩, .insertQuad ⟨u, some .xsdString⟩,
      .insertQuad ⟨u, some .xsdInteger⟩, .insert v]
    let names := [Iri.xsdInteger.text, "unknown", Iri.xsdString.text]
    ∃ found, (s.scoped names).source ⟨none, none, none⟩ = .ok found ∧
      (Cursor.ofList found).walk = [u, t] ∧ ∀ t' ∈ [u, t], s.contains t' = true := by
  intro node t u v s names
  obtain ⟨-, views, -, -⟩ := scoped_as_store [.insertQuad ⟨t, some .xsdString⟩,
    .insertQuad ⟨u, some .xsdString⟩, .insertQuad ⟨u, some .xsdInteger⟩, .insert v] names
  obtain ⟨found, answer, -, -, -, stored⟩ := views (List.cons_ne_nil _ _) ⟨none, none, none⟩
  have chosen : (s.scoped names).select ⟨none, none, none⟩ = [u, t] := by decide +kernel
  have same : found = [u, t] := Except.ok.inj (answer.symm.trans (congrArg Except.ok chosen))
  rw [Cursor.walk_ofList, same] at stored
  exact ⟨found, answer, by rw [Cursor.walk_ofList, same], stored⟩

end Store

end GraphPattern
