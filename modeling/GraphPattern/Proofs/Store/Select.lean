/-
# Selecting through the indices

A store is *well indexed* if each of its three indices lists the stored triples by
the key of its position.  `Store.select` then gives the triples that agree with a
selector in the order in which they are stored, whichever index it scans.
-/
import GraphPattern.Proofs.Store.Index

namespace GraphPattern

/-- Every stored triple is there once, and each index lists the stored triples. -/
structure Store.WellIndexed (s : Store) : Prop where
  distinct : s.triples.Nodup
  bySubject : s.bySubject.Lists Triple.subject s.triples
  byPredicate : s.byPredicate.Lists Triple.predicate s.triples
  byObject : s.byObject.Lists Triple.object s.triples

/-! ## What a selector asks of a triple -/

namespace TripleSelector

theorem admits_eq_true {α : Type} [DecidableEq α] {fixed : Option α} {value : α} :
    admits fixed value = true ↔ ∀ x, fixed = some x → value = x := by
  cases fixed with
  | none => simp [admits]
  | some x =>
      simp only [admits, decide_eq_true_eq, Option.some.injEq]
      exact ⟨fun h y hy => hy ▸ h.symm, fun h => (h x rfl).symm⟩

theorem selects_eq_true {p : TripleSelector} {t : Triple} :
    p.selects t = true ↔ (∀ s, p.subject = some s → t.subject = s) ∧
      (∀ i, p.predicate = some i → t.predicate = i) ∧
      (∀ o, p.object = some o → t.object = o) := by
  simp only [selects, Bool.and_eq_true, admits_eq_true, and_assoc]

end TripleSelector

namespace Store

variable {triples : List Triple} {p : TripleSelector}

/-! ## The lists that are looked up -/

/-- What is looked up for a fixed position: the stored triples that pass a test which
every triple agreeing with the selector passes, or nothing if there are none. -/
def Narrows (triples : List Triple) (p : TripleSelector) (entry : Option (List Triple)) : Prop :=
  ∃ q : Triple → Bool, (∀ t, p.selects t = true → q t = true) ∧
    entry = if triples.filter q = [] then none else some (triples.filter q)

theorem Narrows.of_lists {κ : Type} [DecidableEq κ] {index : TripleIndex κ}
    {keyOf : Triple → κ} {key : κ} (h : index.Lists keyOf triples)
    (asks : ∀ t, p.selects t = true → keyOf t = key) : Narrows triples p (index.get? key) :=
  ⟨fun t => keyOf t = key, fun t ht => by simpa using asks t ht, h.get? key⟩

theorem WellIndexed.narrows {s : Store} (h : s.WellIndexed) {entry : Option (List Triple)}
    (mem : entry ∈ s.indexLists p) : Narrows s.triples p entry := by
  simp only [indexLists, List.mem_append, Option.mem_toList,
    Option.map_eq_some_iff] at mem
  rcases mem with (⟨k, hk, rfl⟩ | ⟨k, hk, rfl⟩) | ⟨k, hk, rfl⟩
  · exact .of_lists h.bySubject fun t ht => (TripleSelector.selects_eq_true.mp ht).1 k hk
  · exact .of_lists h.byPredicate fun t ht => (TripleSelector.selects_eq_true.mp ht).2.1 k hk
  · exact .of_lists h.byObject fun t ht => (TripleSelector.selects_eq_true.mp ht).2.2 k hk

theorem Narrows.filter_eq {listed : List Triple} (h : Narrows triples p (some listed)) :
    listed.filter p.selects = triples.filter p.selects := by
  obtain ⟨q, hq, heq⟩ := h
  split at heq
  · cases heq
  · obtain rfl := Option.some.inj heq
    rw [List.filter_filter]
    refine List.filter_congr fun t _ => ?_
    by_cases ht : p.selects t = true
    · simp [ht, hq t ht]
    · simp [ht]

theorem Narrows.filter_eq_nil (h : Narrows triples p none) : triples.filter p.selects = [] := by
  obtain ⟨q, hq, heq⟩ := h
  split at heq
  · next hnil =>
      rw [List.filter_eq_nil_iff] at hnil ⊢
      exact fun t ht hs => hnil t ht (hq t hs)
  · cases heq

/-! ## Which list is scanned -/

theorem shortest_mem (best : List Triple) (rest : List (List Triple)) :
    shortest best rest ∈ best :: rest := by
  induction rest generalizing best with
  | nil => simp [shortest]
  | cons l rest ih =>
      rw [shortest]
      split
      · exact List.mem_cons_of_mem _ (ih l)
      · rcases List.mem_cons.mp (ih best) with h | h
        · rw [h]; exact List.mem_cons_self
        · exact List.mem_cons_of_mem _ (List.mem_cons_of_mem _ h)

theorem none_mem_of_mapM {lists : List (Option (List Triple))}
    (h : lists.mapM id = none) : none ∈ lists := by
  induction lists with
  | nil => cases h
  | cons entry rest ih =>
      cases entry with
      | none => exact List.mem_cons_self
      | some l =>
          simp only [List.mapM_cons, id_eq, Option.bind_eq_bind, Option.bind_some] at h
          cases hr : rest.mapM id with
          | none => exact List.mem_cons_of_mem _ (ih hr)
          | some ls => simp [hr] at h

theorem eq_map_some_of_mapM {lists : List (Option (List Triple))} {ls : List (List Triple)}
    (h : lists.mapM id = some ls) : lists = ls.map some := by
  induction lists generalizing ls with
  | nil => cases h; rfl
  | cons entry rest ih =>
      cases entry with
      | none => simp at h
      | some l =>
          simp only [List.mapM_cons, id_eq, Option.bind_eq_bind, Option.bind_some] at h
          cases hr : rest.mapM id with
          | none => simp [hr] at h
          | some ls' =>
              simp only [hr, Option.bind_some, Option.pure_def, Option.some.injEq] at h
              subst h
              simp [ih hr]

/-- **A well indexed store selects as its list of triples does.** -/
theorem WellIndexed.select_eq {s : Store} (h : s.WellIndexed) (p : TripleSelector) :
    s.select p = s.triples.filter p.selects := by
  unfold select candidates
  cases hl : (s.indexLists p).mapM id with
  | none => exact (h.narrows (none_mem_of_mapM hl)).filter_eq_nil.symm
  | some ls =>
      cases ls with
      | nil => rfl
      | cons l rest =>
          refine Narrows.filter_eq (h.narrows ?_)
          rw [eq_map_some_of_mapM hl]
          exact List.mem_map_of_mem (shortest_mem l rest)

end Store

end GraphPattern
