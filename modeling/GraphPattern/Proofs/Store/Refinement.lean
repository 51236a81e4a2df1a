/-
# A store is a plain list of distinct triples

`TripleList` is what a store means: a list, with the rules for changing it and no
index.  `Store.Mirrors` lists all that can be seen of a store and says that each
answer is that of the list.  Along every history the store mirrors the list that the
same history makes.
-/
import GraphPattern.Proofs.Store.History
import GraphPattern.Store.Source

namespace GraphPattern

/-! ## The plain list -/

namespace TripleList

/-- What a change comes to on a list: an error, if it fails, and the list behind it. -/
def attempt (l : List Triple) : StoreEdit → Option StoreError × List Triple
  | .insert t => if t ∈ l then (some .duplicateTriple, l) else (none, l ++ [t])
  | .insertQuad q => (none, if q.triple ∈ l then l else l ++ [q.triple])
  | .remove t => if t ∈ l then (none, l.filter (· ≠ t)) else (some .tripleNotFound, l)
  | .clear => (none, [])

def after (l : List Triple) (e : StoreEdit) : List Triple := (attempt l e).2

/-- The list that a history of changes leads to, from the empty one. -/
def ofEdits (edits : List StoreEdit) : List Triple := edits.foldl after []

end TripleList

/-! ## Walking a cursor -/

namespace Cursor

theorem advance_shorter {c next : Cursor} {t : Triple} (hc : c.current = some t)
    (ha : c.advance = .ok next) : next.rest.length < c.rest.length := by
  obtain ⟨rest, closed⟩ := c
  cases rest with
  | nil => cases hc
  | cons _ _ =>
      unfold advance at ha
      split at ha
      · cases ha
      · cases ha; simp

/-- The candidates that are met by looking and moving on, until there is none. -/
def walk (c : Cursor) : List Triple :=
  match hc : c.current, ha : c.advance with
  | some t, .ok next =>
      have : next.rest.length < c.rest.length := advance_shorter hc ha
      t :: walk next
  | some t, .error _ => [t]
  | none, _ => []
termination_by c.rest.length

theorem walk_ofList (triples : List Triple) : (ofList triples).walk = triples := by
  induction triples with
  | nil => rw [walk]; rfl
  | cons t triples ih =>
      rw [walk]
      exact congrArg (t :: ·) ih

end Cursor

/-! ## What can be seen of a store -/

/-- Every answer of a store is that of a list of distinct triples. -/
structure Store.Mirrors (s : Store) (l : List Triple) : Prop where
  distinct : l.Nodup
  triples_eq : s.triples = l
  contains_iff : ∀ t, s.contains t = true ↔ t ∈ l
  size_eq : s.size = l.length
  select_eq : ∀ p, s.select p = l.filter p.selects
  walk_eq : ∀ p, ∃ found, s.source p = .ok found ∧
    (Cursor.ofList found).walk = l.filter p.selects
  insert_eq : ∀ t, (s.insert t).map id Store.triples =
    if t ∈ l then (some .duplicateTriple, l) else (none, l ++ [t])
  insertQuad_eq : ∀ q, (s.insertQuad q).triples = if q.triple ∈ l then l else l ++ [q.triple]
  remove_eq : ∀ t, (s.remove t).map id Store.triples =
    if t ∈ l then (none, l.filter (· ≠ t)) else (some .tripleNotFound, l)
  failed_eq : ∀ e f, (s.attempt e).1 = some f → (s.attempt e).2 = s
  bySubject : s.bySubject.Lists Triple.subject l
  byPredicate : s.byPredicate.Lists Triple.predicate l
  byObject : s.byObject.Lists Triple.object l

namespace Store

variable {s : Store}

theorem insert_triples (s : Store) (t : Triple) : (s.insert t).map id triples =
    if t ∈ s.triples then (some .duplicateTriple, s.triples) else (none, s.triples ++ [t]) := by
  unfold insert
  split <;> rfl

theorem insertQuad_triples (s : Store) (q : Quad) : (s.insertQuad q).triples =
    if q.triple ∈ s.triples then s.triples else s.triples ++ [q.triple] := by
  have added : (if q.triple ∈ s.triples then s else s.push q.triple).triples =
      if q.triple ∈ s.triples then s.triples else s.triples ++ [q.triple] := by
    split <;> rfl
  unfold insertQuad
  cases q.graph <;> exact added

theorem remove_triples (distinct : s.triples.Nodup) (t : Triple) :
    (s.remove t).map id triples =
      if t ∈ s.triples then (none, s.triples.filter (· ≠ t))
      else (some .tripleNotFound, s.triples) := by
  unfold remove
  split
  · refine congrArg (Prod.mk none) ?_
    show s.triples.erase t = _
    rw [distinct.erase_eq_filter t]
    refine List.filter_congr fun a _ => ?_
    by_cases h : a = t <;> simp [h]
  · rfl

theorem insert_of_failure {t : Triple} {f : StoreError} (h : (s.insert t).1 = some f) :
    (s.insert t).2 = s := by
  unfold insert at h ⊢
  split
  · rfl
  · next new =>
      rw [if_neg new] at h
      cases h

theorem remove_of_failure {t : Triple} {f : StoreError} (h : (s.remove t).1 = some f) :
    (s.remove t).2 = s := by
  unfold remove at h ⊢
  split
  · next there =>
      rw [if_pos there] at h
      cases h
  · rfl

theorem attempt_of_failure {e : StoreEdit} {f : StoreError} (h : (s.attempt e).1 = some f) :
    (s.attempt e).2 = s := by
  cases e with
  | insert t => exact insert_of_failure h
  | insertQuad q => cases h
  | remove t => exact remove_of_failure h
  | clear => cases h

theorem WellIndexed.mirrors (h : s.WellIndexed) : s.Mirrors s.triples where
  distinct := h.distinct
  triples_eq := rfl
  contains_iff t := by simp [contains]
  size_eq := rfl
  select_eq := h.select_eq
  walk_eq p := ⟨s.select p, rfl, by rw [Cursor.walk_ofList, h.select_eq]⟩
  insert_eq := s.insert_triples
  insertQuad_eq := s.insertQuad_triples
  remove_eq := remove_triples h.distinct
  failed_eq _ _ := attempt_of_failure
  bySubject := h.bySubject
  byPredicate := h.byPredicate
  byObject := h.byObject

theorem attempt_eq (distinct : s.triples.Nodup) (e : StoreEdit) :
    (s.attempt e).map id triples = TripleList.attempt s.triples e := by
  cases e with
  | insert t => exact s.insert_triples t
  | insertQuad q => exact congrArg (Prod.mk none) (s.insertQuad_triples q)
  | remove t => exact remove_triples distinct t
  | clear => rfl

theorem attempt_triples (distinct : s.triples.Nodup) (e : StoreEdit) :
    (s.attempt e).2.triples = TripleList.after s.triples e :=
  congrArg Prod.snd (attempt_eq distinct e)

theorem ofEdits_triples (edits : List StoreEdit) :
    (ofEdits edits).triples = TripleList.ofEdits edits := by
  have run : ∀ s : Store, s.WellIndexed →
      (edits.foldl (fun s e => (s.attempt e).2) s).triples =
        edits.foldl TripleList.after s.triples := by
    induction edits with
    | nil => exact fun _ _ => rfl
    | cons e edits ih =>
        intro s h
        rw [List.foldl_cons, List.foldl_cons, ih _ (h.attempt e), attempt_triples h.distinct e]
  exact run empty .empty

/-- **Along every history a store mirrors a plain list of distinct triples.** -/
theorem ofEdits_mirrors (edits : List StoreEdit) :
    (ofEdits edits).Mirrors (TripleList.ofEdits edits) := by
  rw [← ofEdits_triples]
  exact (wellIndexed_ofEdits edits).mirrors

end Store

end GraphPattern
