/-
# Matching a triple under a substitution

`TriplePattern.match?` extends a substitution so that a pattern stands for a triple,
position by position, and `TriplePattern.selector?` is what a pattern asks of a source.
A join does both on its table: it takes a view, binds the variables of the open
positions and takes their values away again.  The lemmas here say that the table
follows the substitution at each of these.
-/
import GraphPattern.Proofs.Join.Substitution
import GraphPattern.Proofs.Store.Select

namespace GraphPattern

/-! ## Positions -/

namespace PatternTerm

def under (σ : Substitution) : PatternTerm → Option Term
  | term t => some t
  | slot id => σ id
  | _ => none

/-- A position is a term or one of the first `n` slots. -/
def Within (n : Nat) : PatternTerm → Prop
  | term _ => True
  | slot id => id.index < n
  | _ => False

def open? (σ : Substitution) : PatternTerm → Option VarId
  | slot id => if (σ id).isNone then some id else none
  | _ => none

/-- Extends a substitution so that a position stands for a term, if it can be. -/
def match? (σ : Substitution) (x : PatternTerm) (t : Term) : Option Substitution :=
  match x.under σ with
  | some u => if u = t then some σ else none
  | none =>
    match x with
    | slot id => some (σ.set id (some t))
    | _ => none

theorem slotUnder_assign {table : VariableTable} {x : PatternTerm} (h : x.Within table.size)
    (σ : Substitution) : ∃ s, x.slotUnder (table.assign σ) = .ok s ∧
      s.term? = x.under σ ∧ s.opened? = x.open? σ := by
  cases x with
  | term t => exact ⟨_, rfl, rfl, rfl⟩
  | slot id =>
      have same := table.value_assign σ h
      unfold slotUnder under open?
      dsimp only
      rw [same]
      cases σ id with
      | none => exact ⟨_, rfl, rfl, rfl⟩
      | some u => exact ⟨_, rfl, rfl, rfl⟩
  | reference _ => exact h.elim
  | qname _ => exact h.elim
  | named _ => exact h.elim

theorem open?_eq_some {σ : Substitution} {x : PatternTerm} {id : VarId} :
    x.open? σ = some id ↔ x = slot id ∧ σ id = none := by
  cases x with
  | slot other =>
      simp only [open?, Option.ite_none_right_eq_some, Option.isNone_iff_eq_none,
        Option.some.injEq, slot.injEq]
      exact ⟨fun ⟨new, same⟩ => ⟨same, same ▸ new⟩, fun ⟨same, new⟩ => ⟨same ▸ new, same⟩⟩
  | _ => simp [open?]

theorem under_of_not_open {n : Nat} {σ : Substitution} {x : PatternTerm} (h : x.Within n)
    (fixed : x.open? σ = none) : ∃ u, x.under σ = some u := by
  cases x with
  | term t => exact ⟨t, rfl⟩
  | slot id =>
      cases hv : σ id with
      | none => simp [open?, hv] at fixed
      | some u => exact ⟨u, hv⟩
  | reference _ => exact h.elim
  | qname _ => exact h.elim
  | named _ => exact h.elim

theorem under_of_extends {σ τ : Substitution} (h : τ.Extends σ) {x : PatternTerm} {u : Term}
    (hu : x.under σ = some u) : x.under τ = some u := by
  cases x with
  | term t => exact hu
  | slot id => exact h id u hu
  | _ => cases hu

end PatternTerm

/-! ## Patterns -/

/-- Fixes a position by a part of terms, if it stands for something: `none` if the term
cannot stand there. -/
def placed {α : Type} (place : Term → Option α) : Option Term → Option (Option α)
  | none => some none
  | some t => (place t).map some

namespace TriplePattern

/-- Every position is a term or one of the first `n` slots. -/
def Within (n : Nat) (p : TriplePattern) : Prop := ∀ pos, (p.term pos).Within n

/-- What a pattern asks of a source under a substitution: nothing if a value cannot stand
in its position. -/
def selector? (σ : Substitution) (p : TriplePattern) : Option TripleSelector := do
  let subject ← placed Term.subject? (p.subject.under σ)
  let predicate ← placed Term.predicate? (p.predicate.under σ)
  return ⟨subject, predicate, p.object.under σ⟩

/-- Extends a substitution until each of some positions of a pattern stands for the term
that a triple has there. -/
def extend (p : TriplePattern) (t : Triple) : List Position → Substitution → Option Substitution
  | [], σ => some σ
  | pos :: rest, σ => ((p.term pos).match? σ (t.term pos)).bind (p.extend t rest)

/-- Extends a substitution so that a pattern stands for a triple, if it can be. -/
def match? (σ : Substitution) (p : TriplePattern) (t : Triple) : Option Substitution :=
  p.extend t Position.all σ

/-- The variable that a position leaves open, with the position. -/
def binderAt (σ : Substitution) (p : TriplePattern) (pos : Position) : Option Binder :=
  ((p.term pos).open? σ).map fun id => ⟨pos, id⟩

def binders (σ : Substitution) (p : TriplePattern) : List Binder :=
  Position.all.filterMap (p.binderAt σ)

/-- A triple has what the pattern stands for under a substitution. -/
def Fits (σ : Substitution) (p : TriplePattern) (t : Triple) : Prop :=
  ∀ pos u, (p.term pos).under σ = some u → u = t.term pos

theorem fix_eq_placed {α : Type} (place : Term → Option α) (s : Slot) :
    PatternView.fix place s = placed place s.term? := by
  unfold PatternView.fix placed
  cases s.term? <;> rfl

theorem viewUnder_assign {table : VariableTable} {p : TriplePattern} (h : p.Within table.size)
    (σ : Substitution) : ∃ v, p.viewUnder (table.assign σ) = .ok v ∧
      v.binders = p.binders σ ∧ v.selector? = p.selector? σ := by
  obtain ⟨s, hs, terms, opens⟩ := PatternTerm.slotUnder_assign (h .subject) σ
  obtain ⟨i, hi, termi, openi⟩ := PatternTerm.slotUnder_assign (h .predicate) σ
  obtain ⟨o, ho, termo, openo⟩ := PatternTerm.slotUnder_assign (h .object) σ
  refine ⟨⟨s, i, o⟩, ?_, ?_, ?_⟩
  · have hs : p.subject.slotUnder (table.assign σ) = .ok s := hs
    have hi : p.predicate.slotUnder (table.assign σ) = .ok i := hi
    have ho : p.object.slotUnder (table.assign σ) = .ok o := ho
    rw [viewUnder, hs, hi, ho]
    rfl
  · simp only [PatternView.binders, PatternView.slots, binders, Position.all, binderAt,
      List.filterMap_cons, opens, openi, openo]
    rfl
  · simp only [PatternView.selector?, selector?, fix_eq_placed, terms, termi, termo]
    rfl

/-! ## What a source gives fits -/

theorem placed_eq_some {α : Type} {place : Term → Option α} {o : Option Term}
    {fixed : Option α} (h : placed place o = some fixed) {u : Term} (hu : o = some u) :
    ∃ a, place u = some a ∧ fixed = some a := by
  subst hu
  obtain ⟨a, ha, same⟩ := Option.map_eq_some_iff.mp h
  exact ⟨a, ha, same.symm⟩

theorem subject?_eq_some {u : Term} {s : Subject} (h : u.subject? = some s) : u = s.term := by
  cases u <;> cases h <;> rfl

theorem predicate?_eq_some {u : Term} {i : Iri} (h : u.predicate? = some i) : u = .iri i := by
  cases u <;> cases h
  rfl

/-- A triple that agrees with what a pattern asks has what the pattern stands for. -/
theorem fits_of_selects {σ : Substitution} {p : TriplePattern} {sel : TripleSelector}
    (h : p.selector? σ = some sel) {t : Triple} (ht : sel.selects t = true) : p.Fits σ t := by
  obtain ⟨s, hs, rest⟩ := Option.bind_eq_some_iff.mp h
  obtain ⟨i, hi, same⟩ := Option.bind_eq_some_iff.mp rest
  obtain rfl := Option.some.inj same
  obtain ⟨subject, predicate, object⟩ := TripleSelector.selects_eq_true.mp ht
  intro pos u hu
  cases pos with
  | subject =>
      obtain ⟨a, ha, rfl⟩ := placed_eq_some hs hu
      rw [subject?_eq_some ha]
      exact congrArg Subject.term (subject a rfl).symm
  | predicate =>
      obtain ⟨a, ha, rfl⟩ := placed_eq_some hi hu
      rw [predicate?_eq_some ha]
      exact congrArg Term.iri (predicate a rfl).symm
  | object => exact (object u hu).symm

end TriplePattern

/-! ## Binding and releasing -/

namespace VariableTable

variable {table : VariableTable} {σ : Substitution} {p : TriplePattern} {t : Triple}

theorem release_assign (binders : List Binder) (σ : Substitution) :
    (table.assign σ).release binders =
      table.assign fun id => if id ∈ binders.map (·.id) then none else σ id := by
  induction binders generalizing σ with
  | nil => simp [release]
  | cons b binders ih =>
      have step : (table.assign σ).release (b :: binders) =
          ((table.assign σ).unbind b.id).release binders := rfl
      rw [step, unbind_assign, ih]
      congr 1
      funext id
      by_cases h : id = b.id
      · simp [h, Substitution.set]
      · simp [h, Substitution.set]

theorem release_of_agree {binders : List Binder} {τ : Substitution}
    (new : ∀ b ∈ binders, σ b.id = none)
    (agree : ∀ id, id ∉ binders.map (·.id) → τ id = σ id) :
    (table.assign τ).release binders = table.assign σ := by
  rw [release_assign]
  congr 1
  funext id
  split
  · next mem =>
      obtain ⟨b, hb, rfl⟩ := List.mem_map.mp mem
      exact (new b hb).symm
  · next other => exact agree id other

theorem binders_new {b : Binder} (h : b ∈ p.binders σ) : σ b.id = none := by
  obtain ⟨pos, -, hb⟩ := List.mem_filterMap.mp h
  obtain ⟨id, hid, rfl⟩ := Option.map_eq_some_iff.mp hb
  exact (PatternTerm.open?_eq_some.mp hid).2

/-- Binding the open variables of some positions follows the extension of the
substitution, and changes these variables only.  The induction is on the positions; the
substitution `τ` has grown from `σ` by the positions before. -/
theorem unify_positions (within : p.Within table.size) (fits : p.Fits σ t)
    (positions : List Position) {τ : Substitution} (grown : τ.Extends σ) :
    ∃ υ, (table.assign τ).unify t (positions.filterMap (p.binderAt σ)) =
        ((p.extend t positions τ).isSome, table.assign υ) ∧
      (∀ υ', p.extend t positions τ = some υ' → υ' = υ) ∧
      ∀ id, id ∉ (positions.filterMap (p.binderAt σ)).map (·.id) → υ id = τ id := by
  induction positions generalizing τ with
  | nil => exact ⟨τ, rfl, fun υ' h => (Option.some.inj h).symm, fun _ _ => rfl⟩
  | cons pos rest ih =>
      cases ho : (p.term pos).open? σ with
      | none =>
          -- a fixed position: the triple has what stands there
          obtain ⟨u, hu⟩ := PatternTerm.under_of_not_open (within pos) ho
          have matched : (p.term pos).match? τ (t.term pos) = some τ := by
            simp [PatternTerm.match?, PatternTerm.under_of_extends grown hu, fits pos u hu]
          have skipped : p.binderAt σ pos = none := by simp [TriplePattern.binderAt, ho]
          rw [List.filterMap_cons_none skipped]
          simp only [TriplePattern.extend, matched, Option.bind_some]
          exact ih grown
      | some id =>
          obtain ⟨isSlot, new⟩ := PatternTerm.open?_eq_some.mp ho
          have bound : p.binderAt σ pos = some ⟨pos, id⟩ := by
            simp [TriplePattern.binderAt, ho]
          rw [List.filterMap_cons_some bound]
          have inside : id.index < table.size := by
            have := within pos
            rwa [isSlot] at this
          have value := table.value_assign τ inside
          cases hv : τ id with
          | none =>
              -- the first occurrence: the variable takes the value
              have matched : (p.term pos).match? τ (t.term pos) =
                  some (τ.set id (some (t.term pos))) := by
                simp [PatternTerm.match?, isSlot, PatternTerm.under, hv]
              rw [hv] at value
              simp only [TriplePattern.extend, matched, Option.bind_some, unify, value,
                bind_assign]
              obtain ⟨υ, same, last, kept⟩ := ih ((Substitution.Extends.set hv _).trans grown)
              refine ⟨υ, same, last, fun other h => ?_⟩
              rw [List.map_cons, List.mem_cons, not_or] at h
              rw [kept other h.2, Substitution.set_ne τ h.1]
          | some u =>
              -- a further occurrence: the values agree, or the search is over
              rw [hv] at value
              by_cases agree : u = t.term pos
              · have matched : (p.term pos).match? τ (t.term pos) = some τ := by
                  simp [PatternTerm.match?, isSlot, PatternTerm.under, hv, agree]
                simp only [TriplePattern.extend, matched, Option.bind_some, unify, value,
                  if_pos agree]
                obtain ⟨υ, same, last, kept⟩ := ih grown
                refine ⟨υ, same, last, fun other h => ?_⟩
                rw [List.map_cons, List.mem_cons, not_or] at h
                exact kept other h.2
              · have failed : (p.term pos).match? τ (t.term pos) = none := by
                  simp [PatternTerm.match?, isSlot, PatternTerm.under, hv, agree]
                simp only [TriplePattern.extend, failed, Option.bind_none, unify, value,
                  if_neg agree]
                exact ⟨τ, rfl, (fun _ h => nomatch h), fun _ _ => rfl⟩

/-- **Binding a candidate follows the match, and what it binds can be taken away.** -/
theorem unify_assign (within : p.Within table.size) (fits : p.Fits σ t) :
    ∃ υ, (table.assign σ).unify t (p.binders σ) = ((p.match? σ t).isSome, table.assign υ) ∧
      (∀ σ', p.match? σ t = some σ' → σ' = υ) ∧
      (table.assign υ).release (p.binders σ) = table.assign σ := by
  obtain ⟨υ, same, last, kept⟩ := unify_positions within fits Position.all (.refl σ)
  exact ⟨υ, same, last, release_of_agree (fun _ => binders_new) kept⟩

theorem release_binders : (table.assign σ).release (p.binders σ) = table.assign σ :=
  release_of_agree (fun _ => binders_new) fun _ _ => rfl

end VariableTable

end GraphPattern
