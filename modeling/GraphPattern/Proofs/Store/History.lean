/-
# Stores that a history of changes leads to

A history is a list of changes, failing ones included.  Every store that one leads to is well
indexed, by induction over the history, one lemma for each kind of change.
-/
import GraphPattern.Proofs.Store.Select

namespace GraphPattern

/-- A change that is asked of a store. -/
inductive StoreEdit where
  | insert (t : Triple)
  | insertQuad (q : Quad)
  | remove (t : Triple)
  | clear

namespace Store

/-- What a change comes to: an error, if it fails, and the store behind it. -/
def attempt (s : Store) : StoreEdit → Option StoreError × Store
  | .insert t => s.insert t
  | .insertQuad q => (none, s.insertQuad q)
  | .remove t => s.remove t
  | .clear => (none, s.clear)

/-- The store that a history of changes leads to, from the empty one. -/
def ofEdits (edits : List StoreEdit) : Store := edits.foldl (fun s e => (s.attempt e).2) empty

/-- What holds of the empty store and no history, and goes on over every change, failing or
not, holds of every store and the history that leads to it. -/
theorem ofEdits_follows {P : Store → List StoreEdit → Prop} (start : P empty [])
    (step : ∀ s before e, P s before → P (s.attempt e).2 (before ++ [e]))
    (edits : List StoreEdit) : P (ofEdits edits) edits := by
  have run : ∀ s before, P s before →
      P (edits.foldl (fun s e => (s.attempt e).2) s) (before ++ edits) := by
    induction edits with
    | nil => exact fun s before h => (List.append_nil before).symm ▸ h
    | cons e edits ih =>
        intro s before h
        have rest := ih _ _ (step s before e h)
        rwa [List.append_assoc] at rest
  exact run empty [] start

/-! ## Every change keeps a store well indexed -/

theorem WellIndexed.empty : Store.empty.WellIndexed :=
  ⟨.nil, .empty, .empty, .empty⟩

theorem WellIndexed.push {s : Store} (h : s.WellIndexed) {t : Triple} (new : t ∉ s.triples) :
    (s.push t).WellIndexed where
  distinct := by
    have longer := nodup_insertNew h.distinct t
    rwa [insertNew_of_not_mem new] at longer
  bySubject := h.bySubject.add new
  byPredicate := h.byPredicate.add new
  byObject := h.byObject.add new

theorem WellIndexed.withGraphs {s : Store} (h : s.WellIndexed) (graphs : TripleIndex String) :
    { s with graphs := graphs }.WellIndexed :=
  ⟨h.distinct, h.bySubject, h.byPredicate, h.byObject⟩

theorem WellIndexed.insertQuad {s : Store} (h : s.WellIndexed) (q : Quad) :
    (s.insertQuad q).WellIndexed := by
  have pushed : (if q.triple ∈ s.triples then s else s.push q.triple).WellIndexed := by
    split
    · exact h
    · next new => exact h.push new
  unfold Store.insertQuad
  cases q.graph with
  | none => exact pushed
  | some graph => exact pushed.withGraphs _

theorem WellIndexed.erased {s : Store} (h : s.WellIndexed) (t : Triple)
    (graphs : TripleIndex String) :
    Store.WellIndexed ⟨s.triples.erase t, s.bySubject.remove t.subject t,
      s.byPredicate.remove t.predicate t, s.byObject.remove t.object t, graphs⟩ :=
  ⟨h.distinct.erase t, h.bySubject.remove t, h.byPredicate.remove t, h.byObject.remove t⟩

theorem WellIndexed.attempt {s : Store} (h : s.WellIndexed) (e : StoreEdit) :
    (s.attempt e).2.WellIndexed := by
  cases e with
  | insert t =>
      show (s.insert t).2.WellIndexed
      unfold Store.insert
      split
      · exact h
      · next new => exact h.push new
  | insertQuad q => exact h.insertQuad q
  | remove t =>
      show (s.remove t).2.WellIndexed
      unfold Store.remove
      split
      · exact h.erased t _
      · exact h
  | clear => exact .empty

/-- **Every store is well indexed.** -/
theorem wellIndexed_ofEdits (edits : List StoreEdit) : (ofEdits edits).WellIndexed :=
  ofEdits_follows (P := fun s _ => s.WellIndexed) .empty (fun _ _ e h => h.attempt e) edits

end Store

end GraphPattern
