/-
# The rows of a join over a store are its answers

An *answer* is a substitution for the variables of the patterns under which every
pattern stands for a stored triple and the constraint holds.  This says nothing about an
order, about indices or about candidates.  The nested loops over a store find every
answer (`mem_nestedLoop`) and find it once (`nodup_nestedLoop`), since a substitution
determines the candidate of every level.
-/
import GraphPattern.Proofs.Join.Refinement

namespace GraphPattern

/-! ## Matching is extending -/

section Matching

variable {σ τ υ : Substitution} {t : Triple}

/-- A match has the values that were there and stands for the term; other variables stay
without a value. -/
theorem PatternTerm.match?_sound {x : PatternTerm} {u : Term} (h : x.match? σ u = some τ) :
    τ.Extends σ ∧ x.under τ = some u ∧ ∀ id, σ id = none → x ≠ slot id → τ id = none := by
  unfold match? at h
  split at h
  · next v hv =>
      split at h
      · next same =>
          cases h
          exact ⟨.refl σ, same ▸ hv, fun _ free _ => free⟩
      · cases h
  · next unbound =>
      split at h
      · next id =>
          cases h
          refine ⟨.set unbound u, σ.set_self id (some u), fun other free ne => ?_⟩
          have apart : other ≠ id := fun same => ne (congrArg slot same.symm)
          rw [σ.set_ne apart]
          exact free
      · cases h

/-- Whatever has the values that are there and stands for the term has those of the
match. -/
theorem PatternTerm.match?_complete {x : PatternTerm} {u : Term} (grown : υ.Extends σ)
    (h : x.under υ = some u) : ∃ τ, x.match? σ u = some τ ∧ υ.Extends τ := by
  unfold match?
  cases hv : x.under σ with
  | some v =>
      have same := under_of_extends grown hv
      rw [h] at same
      cases same
      exact ⟨σ, if_pos rfl, grown⟩
  | none =>
      cases x with
      | slot id =>
          refine ⟨_, rfl, fun other w hw => ?_⟩
          by_cases same : other = id
          · subst same
            rw [σ.set_self] at hw
            cases hw
            exact h
          · rw [σ.set_ne same] at hw
            exact grown other w hw
      | term _ => cases hv
      | _ => cases h

namespace TriplePattern

variable {p : TriplePattern}

/-- A pattern stands for a triple under a substitution. -/
def Stands (σ : Substitution) (p : TriplePattern) (t : Triple) : Prop :=
  ∀ pos, (p.term pos).under σ = some (t.term pos)

/-- The triple of what the positions of a pattern mean, if they mean terms that can stand
there. -/
def triple? (meaning : PatternTerm → Option Term) (p : TriplePattern) : Option Triple := do
  let subject ← (← meaning p.subject).subject?
  let predicate ← (← meaning p.predicate).predicate?
  let object ← meaning p.object
  return ⟨subject, predicate, object⟩

/-- The triple that a pattern stands for under a substitution. -/
def instantiate? (σ : Substitution) (p : TriplePattern) : Option Triple :=
  p.triple? (PatternTerm.under σ)

theorem subject?_term (s : Subject) : s.term.subject? = some s := by
  cases s <;> rfl

theorem stands_iff : p.Stands σ t ↔ p.instantiate? σ = some t := by
  constructor
  · intro h
    have subject : p.subject.under σ = some t.subject.term := h .subject
    have predicate : p.predicate.under σ = some (.iri t.predicate) := h .predicate
    have object : p.object.under σ = some t.object := h .object
    simp [instantiate?, triple?, subject, predicate, object, subject?_term, Term.predicate?]
  · intro h
    simp only [instantiate?, triple?, Option.bind_eq_bind, Option.bind_eq_some_iff] at h
    obtain ⟨u, hu, s, hs, v, hv, i, hi, o, ho, same⟩ := h
    cases same
    intro pos
    cases pos with
    | subject => exact hu.trans (congrArg some (subject?_eq_some hs))
    | predicate => exact hv.trans (congrArg some (predicate?_eq_some hi))
    | object => exact ho

theorem Stands.mono (h : p.Stands σ t) (grown : τ.Extends σ) : p.Stands τ t :=
  fun pos => PatternTerm.under_of_extends grown (h pos)

theorem Stands.unique {t' : Triple} (h : p.Stands σ t) (h' : p.Stands σ t') : t = t' :=
  Option.some.inj ((stands_iff.mp h).symm.trans (stands_iff.mp h'))

theorem exists_position {id : VarId} (h : PatternTerm.slot id ∈ p.terms) :
    ∃ pos ∈ Position.all, p.term pos = .slot id := by
  simp only [terms, List.mem_cons, List.not_mem_nil, or_false] at h
  rcases h with same | same | same
  · exact ⟨.subject, by decide, same.symm⟩
  · exact ⟨.predicate, by decide, same.symm⟩
  · exact ⟨.object, by decide, same.symm⟩

theorem Stands.value {id : VarId} (h : p.Stands σ t) (occurs : PatternTerm.slot id ∈ p.terms) :
    ∃ u, σ id = some u := by
  obtain ⟨pos, -, same⟩ := exists_position occurs
  have value := h pos
  rw [same] at value
  exact ⟨_, value⟩

theorem term_mem (p : TriplePattern) (pos : Position) : p.term pos ∈ p.terms := by
  cases pos <;> simp [term, terms]

theorem extend_sound (positions : List Position) (h : p.extend t positions σ = some τ) :
    τ.Extends σ ∧ (∀ pos ∈ positions, (p.term pos).under τ = some (t.term pos)) ∧
      ∀ id, σ id = none → .slot id ∉ p.terms → τ id = none := by
  induction positions generalizing σ with
  | nil =>
      cases h
      exact ⟨.refl _, (fun _ h => nomatch h), fun _ free _ => free⟩
  | cons pos rest ih =>
      obtain ⟨υ, first, more⟩ := Option.bind_eq_some_iff.mp h
      obtain ⟨grown, stands, others⟩ := PatternTerm.match?_sound first
      obtain ⟨grown', stands', others'⟩ := ih more
      refine ⟨grown'.trans grown, ?_, fun id free out => ?_⟩
      · intro q hq
        rcases List.mem_cons.mp hq with rfl | hq
        · exact PatternTerm.under_of_extends grown' stands
        · exact stands' q hq
      · refine others' id (others id free fun same => out ?_) out
        exact same ▸ p.term_mem pos

theorem extend_complete (positions : List Position) (grown : υ.Extends σ)
    (h : p.Stands υ t) : ∃ τ, p.extend t positions σ = some τ ∧ υ.Extends τ := by
  induction positions generalizing σ with
  | nil => exact ⟨σ, rfl, grown⟩
  | cons pos rest ih =>
      obtain ⟨τ, first, grown'⟩ := PatternTerm.match?_complete grown (h pos)
      obtain ⟨τ', more, last⟩ := ih grown'
      exact ⟨τ', Option.bind_eq_some_iff.mpr ⟨τ, first, more⟩, last⟩

theorem match?_sound (h : p.match? σ t = some τ) :
    τ.Extends σ ∧ p.Stands τ t ∧ ∀ id, σ id = none → .slot id ∉ p.terms → τ id = none := by
  obtain ⟨grown, stands, others⟩ := extend_sound Position.all h
  refine ⟨grown, fun pos => stands pos ?_, others⟩
  cases pos <;> simp [Position.all]

theorem match?_complete (grown : υ.Extends σ) (h : p.Stands υ t) :
    ∃ τ, p.match? σ t = some τ ∧ υ.Extends τ :=
  extend_complete Position.all grown h

/-! ## Candidates -/

theorem placed_of_fits {α : Type} {place : Term → Option α} {o : Option Term} {u : Term} {a : α}
    (h : place u = some a) (fits : ∀ v, o = some v → v = u) :
    ∃ fixed, placed place o = some fixed ∧ ∀ x, fixed = some x → a = x := by
  cases o with
  | none => exact ⟨none, rfl, fun _ h => nomatch h⟩
  | some v =>
      refine ⟨some a, ?_, fun x h => Option.some.inj h⟩
      rw [placed, fits v rfl, h]
      rfl

theorem selects_of_fits (h : p.Fits σ t) :
    ∃ selector, p.selector? σ = some selector ∧ selector.selects t = true := by
  obtain ⟨s, hs, subject⟩ := placed_of_fits (subject?_term t.subject) (h .subject)
  obtain ⟨i, hi, predicate⟩ := placed_of_fits (rfl : (Term.iri t.predicate).predicate? = _)
    (h .predicate)
  have hs : placed Term.subject? (p.subject.under σ) = some s := hs
  have hi : placed Term.predicate? (p.predicate.under σ) = some i := hi
  refine ⟨⟨s, i, p.object.under σ⟩, by rw [selector?, hs, hi]; rfl, ?_⟩
  exact TripleSelector.selects_eq_true.mpr
    ⟨subject, predicate, fun o ho => (h .object o ho).symm⟩

end TriplePattern

end Matching

/-! ## What the nested loops find -/

def Candidates.ofList (triples : List Triple) : Candidates := fun p => triples.filter p.selects

section NestedLoop

variable {triples : List Triple} {accepts : Substitution → Bool} {ps : List TriplePattern}
  {σ τ : Substitution}

/-- A substitution joins some patterns from a first one on: it has more values only for
their variables, and it makes triples of all of them. -/
structure Joins (triples : List Triple) (accepts : Substitution → Bool)
    (ps : List TriplePattern) (σ τ : Substitution) : Prop where
  grown : τ.Extends σ
  confined : ∀ id, σ id = none → (∀ p ∈ ps, .slot id ∉ p.terms) → τ id = none
  stands : ∀ p ∈ ps, ∃ t ∈ triples, p.Stands τ t
  accepted : accepts τ = true

theorem exists_selector_of_mem_candidates {lists : Candidates} {p : TriplePattern} {t : Triple}
    (h : t ∈ p.candidates lists σ) : ∃ selector, t ∈ lists selector := by
  unfold TriplePattern.candidates at h
  split at h
  · cases h
  · exact ⟨_, h⟩

theorem Joins.candidate {p : TriplePattern} {t : Triple} (grown : τ.Extends σ)
    (stored : t ∈ triples) (stands : p.Stands τ t) : t ∈ p.candidates (.ofList triples) σ := by
  have fits : p.Fits σ t := by
    intro pos u hu
    have := PatternTerm.under_of_extends grown hu
    rw [stands pos] at this
    exact (Option.some.inj this).symm
  obtain ⟨selector, asked, selects⟩ := TriplePattern.selects_of_fits fits
  rw [TriplePattern.candidates, asked]
  exact List.mem_filter.mpr ⟨stored, selects⟩

/-- Whatever the source has, what the nested loops find makes an offered triple of every
pattern, has values for no other variables, and is accepted. -/
theorem nestedLoop_sound {lists : Candidates} (h : τ ∈ nestedLoop lists accepts ps σ) :
    τ.Extends σ ∧ (∀ id, σ id = none → (∀ p ∈ ps, .slot id ∉ p.terms) → τ id = none) ∧
      (∀ p ∈ ps, ∃ selector, ∃ t ∈ lists selector, p.Stands τ t) ∧ accepts τ = true := by
  induction ps generalizing σ with
  | nil =>
      rw [nestedLoop] at h
      split at h
      · next accepted =>
          rw [List.mem_singleton] at h
          subst h
          exact ⟨.refl τ, fun _ free _ => free, fun _ h => absurd h List.not_mem_nil, accepted⟩
      · cases h
  | cons p ps ih =>
      rw [nestedLoop_cons] at h
      obtain ⟨t, candidate, below⟩ := List.mem_flatMap.mp h
      obtain ⟨υ, matched, below⟩ := mem_tryOne.mp below
      obtain ⟨grown, confined, stands, accepted⟩ := ih below
      obtain ⟨grown', stands', others⟩ := TriplePattern.match?_sound matched
      refine ⟨grown.trans grown', ?_, ?_, accepted⟩
      · intro id free out
        exact confined id (others id free (out p List.mem_cons_self))
          fun q hq => out q (List.mem_cons_of_mem _ hq)
      · intro q hq
        rcases List.mem_cons.mp hq with rfl | hq
        · obtain ⟨selector, offered⟩ := exists_selector_of_mem_candidates candidate
          exact ⟨selector, t, offered, stands'.mono grown⟩
        · exact stands q hq

theorem Joins.found (h : Joins triples accepts ps σ τ) :
    τ ∈ nestedLoop (.ofList triples) accepts ps σ := by
  induction ps generalizing σ with
  | nil =>
      have same : τ = σ := by
        funext id
        cases hv : σ id with
        | none => exact h.confined id hv fun _ h => absurd h List.not_mem_nil
        | some u => exact h.grown id u hv
      rw [nestedLoop, if_pos (same ▸ h.accepted), same]
      exact List.mem_singleton_self σ
  | cons p ps ih =>
      rw [nestedLoop_cons]
      obtain ⟨t, stored, stands⟩ := h.stands p List.mem_cons_self
      obtain ⟨υ, matched, grown⟩ := TriplePattern.match?_complete h.grown stands
      obtain ⟨grown', stands', -⟩ := TriplePattern.match?_sound matched
      refine List.mem_flatMap.mpr ⟨t, Joins.candidate h.grown stored stands, ?_⟩
      refine mem_tryOne.mpr ⟨υ, matched, ih ⟨grown, fun id free out => ?_, ?_, h.accepted⟩⟩
      · -- a variable of `p` has a value already, so this one is no variable of `p`
        have before : σ id = none := by
          cases hv : σ id with
          | none => rfl
          | some u =>
              rw [grown' id u hv] at free
              cases free
        refine h.confined id before fun q hq occurs => ?_
        rcases List.mem_cons.mp hq with rfl | hq
        · obtain ⟨u, hu⟩ := stands'.value occurs
          rw [free] at hu
          cases hu
        · exact out q hq occurs
      · exact fun q hq => h.stands q (List.mem_cons_of_mem _ hq)

/-- **The nested loops find what joins the patterns, and nothing else.** -/
theorem mem_nestedLoop : τ ∈ nestedLoop (.ofList triples) accepts ps σ ↔
    Joins triples accepts ps σ τ := by
  refine ⟨fun h => ?_, Joins.found⟩
  obtain ⟨grown, confined, stands, accepted⟩ := nestedLoop_sound h
  refine ⟨grown, confined, fun p hp => ?_, accepted⟩
  obtain ⟨selector, t, offered, stands⟩ := stands p hp
  exact ⟨t, (List.mem_filter.mp offered).1, stands⟩

/-- **The nested loops find nothing twice.** -/
theorem nodup_nestedLoop (distinct : triples.Nodup) :
    (nestedLoop (.ofList triples) accepts ps σ).Nodup := by
  induction ps generalizing σ with
  | nil =>
      rw [nestedLoop]
      split <;> simp
  | cons p ps ih =>
      have candidates : (p.candidates (.ofList triples) σ).Nodup := by
        unfold TriplePattern.candidates
        split
        · exact .nil
        · exact distinct.filter _
      -- a substitution below a candidate makes the pattern stand for it
      have stands : ∀ t, ∀ τ ∈ tryOne (.ofList triples) accepts ps p σ t, p.Stands τ t := by
        intro t τ h
        obtain ⟨υ, matched, below⟩ := mem_tryOne.mp h
        exact (TriplePattern.match?_sound matched).2.1.mono (mem_nestedLoop.mp below).grown
      rw [nestedLoop_cons]
      refine List.pairwise_flatMap.mpr ⟨fun t _ => ?_, candidates.imp fun {t u} ne => ?_⟩
      · cases matched : p.match? σ t with
        | none =>
            rw [tryOne_unmatched matched]
            exact .nil
        | some υ =>
            rw [tryOne_matched matched]
            exact ih
      · rintro τ hτ υ hυ rfl
        exact ne ((stands t τ hτ).unique (stands u τ hυ))

end NestedLoop

/-! ## Answers -/

namespace JoinPlan

variable {plan : JoinPlan} {table : VariableTable} {store : Store} {σ : Substitution}

/-- A substitution is an answer: it has values for the variables of the patterns and for
no others, every pattern is a triple of the store under it, and the constraint holds. -/
structure IsAnswer (plan : JoinPlan) (table : VariableTable) (store : Store)
    (σ : Substitution) : Prop where
  domain : ∀ id, (σ id).isSome ↔ ∃ p ∈ plan.patterns, .slot id ∈ p.terms
  stored : ∀ p ∈ plan.patterns, ∃ t ∈ store.triples, p.instantiate? σ = some t
  accepted : plan.accepts table σ = true

theorem mem_choose (order : plan.order.Perm (List.range plan.patterns.length))
    {p : TriplePattern} : p ∈ plan.choose plan.order ↔ p ∈ plan.patterns := by
  simp only [choose, List.mem_filterMap, order.mem_iff, List.mem_range]
  constructor
  · rintro ⟨i, -, h⟩
    exact List.mem_of_getElem? h
  · intro h
    obtain ⟨i, inside, rfl⟩ := List.mem_iff_getElem.mp h
    exact ⟨i, inside, List.getElem?_eq_getElem inside⟩

theorem proper_of_perm {n : Nat} (within : ∀ p ∈ plan.patterns, p.Within n)
    (order : plan.order.Perm (List.range plan.patterns.length)) : plan.Proper n where
  within := within
  inRange _ h := List.mem_range.mp (order.mem_iff.mp h)
  distinct := order.nodup_iff.mpr List.nodup_range

/-- A substitution that makes triples of all patterns, and has values for no other variables,
has values for exactly the variables of the patterns. -/
theorem isSome_iff_of_stands (order : plan.order.Perm (List.range plan.patterns.length))
    (confined : ∀ id, (∀ p ∈ plan.choose plan.order, .slot id ∉ p.terms) → σ id = none)
    (stands : ∀ p ∈ plan.choose plan.order, ∃ t, p.Stands σ t) (id : VarId) :
    (σ id).isSome ↔ ∃ p ∈ plan.patterns, .slot id ∈ p.terms := by
  constructor
  · intro value
    refine Classical.byContradiction fun out => ?_
    have free := confined id fun p hp occurs => out ⟨p, (mem_choose order).mp hp, occurs⟩
    rw [free] at value
    cases value
  · rintro ⟨p, hp, occurs⟩
    obtain ⟨t, stands⟩ := stands p ((mem_choose order).mpr hp)
    exact Option.isSome_iff_exists.mpr (stands.value occurs)

theorem select_eq_ofList (h : store.WellIndexed) : store.select = Candidates.ofList store.triples :=
  funext h.select_eq

theorem mem_answers (h : store.WellIndexed)
    (order : plan.order.Perm (List.range plan.patterns.length)) :
    σ ∈ plan.answers table store.select ↔ plan.IsAnswer table store σ := by
  rw [answers, select_eq_ofList h, mem_nestedLoop]
  constructor
  · intro joins
    refine ⟨isSome_iff_of_stands order (fun id => joins.confined id rfl) fun p hp => ?_, ?_,
      joins.accepted⟩
    · obtain ⟨t, -, stands⟩ := joins.stands p hp
      exact ⟨t, stands⟩
    · intro p hp
      obtain ⟨t, stored, stands⟩ := joins.stands p ((mem_choose order).mpr hp)
      exact ⟨t, stored, TriplePattern.stands_iff.mp stands⟩
  · intro answer
    refine ⟨fun _ _ h => (nomatch h), fun id _ out => ?_, fun p hp => ?_, answer.accepted⟩
    · refine Option.not_isSome_iff_eq_none.mp fun value => ?_
      obtain ⟨p, hp, occurs⟩ := (answer.domain id).mp value
      exact out p ((mem_choose order).mpr hp) occurs
    · obtain ⟨t, stored, same⟩ := answer.stored p ((mem_choose order).mp hp)
      exact ⟨t, stored, TriplePattern.stands_iff.mpr same⟩

/-- A substitution is a full binding over a source: it has values for the variables of the
patterns and for no others, and every pattern is an offered triple under it. -/
structure IsBinding (plan : JoinPlan) (lists : Candidates) (σ : Substitution) : Prop where
  domain : ∀ id, (σ id).isSome ↔ ∃ p ∈ plan.patterns, .slot id ∈ p.terms
  offered : ∀ p ∈ plan.patterns, ∃ selector, ∃ t ∈ lists selector, p.instantiate? σ = some t

theorem isBinding_of_mem {lists : Candidates}
    (order : plan.order.Perm (List.range plan.patterns.length))
    (h : σ ∈ plan.bindings lists) : plan.IsBinding lists σ := by
  obtain ⟨-, confined, stands, -⟩ := nestedLoop_sound h
  refine ⟨isSome_iff_of_stands order (fun id => confined id rfl) fun p hp => ?_, fun p hp => ?_⟩
  · obtain ⟨_, t, -, stands⟩ := stands p hp
    exact ⟨t, stands⟩
  · obtain ⟨selector, t, offered, stands⟩ := stands p ((mem_choose order).mpr hp)
    exact ⟨selector, t, offered, TriplePattern.stands_iff.mp stands⟩

theorem nodup_answers (h : store.WellIndexed) : (plan.answers table store.select).Nodup := by
  rw [answers, select_eq_ofList h]
  exact nodup_nestedLoop h.distinct

end JoinPlan

namespace JoinState

variable {plan : JoinPlan} {table : VariableTable} {store : Store}

theorem drain_store (h : store.WellIndexed) (wf : plan.Proper table.size) :
    let d := drain plan (.ofSource store.source .none) (start plan table ⟨false, 0, 0⟩)
    d.rows = (plan.answers table store.select).map table.row ∧ d.error = none := by
  have selects : ∀ p, ∀ t ∈ store.select p, p.selects t = true := by
    intro p t ht
    rw [h.select_eq] at ht
    exact (List.mem_filter.mp ht).2
  exact drain_simulates (Backend.ofSource_honest (fun _ => rfl) selects .none)
    (Backend.ofSource_calm fun _ => rfl) wf (start_simulates plan table _ _) rfl

/-- **A join over a store is sound, complete and free of duplicates**: its rows are those
of the answers, one row for each. -/
theorem drain_isAnswer (edits : List StoreEdit) (plan : JoinPlan) (table : VariableTable)
    (within : ∀ p ∈ plan.patterns, p.Within table.size)
    (order : plan.order.Perm (List.range plan.patterns.length)) :
    ∃ answers : List Substitution, answers.Nodup ∧
      (∀ σ, σ ∈ answers ↔ plan.IsAnswer table (Store.ofEdits edits) σ) ∧
      let d := drain plan (.ofSource (Store.ofEdits edits).source .none)
        (start plan table ⟨false, 0, 0⟩)
      d.rows = answers.map table.row ∧ d.error = none := by
  have indexed := Store.wellIndexed_ofEdits edits
  exact ⟨plan.answers table (Store.ofEdits edits).select, JoinPlan.nodup_answers indexed,
    fun σ => JoinPlan.mem_answers indexed order,
    drain_store indexed (JoinPlan.proper_of_perm within order)⟩

/-- The two steps along a chain have one answer. -/
theorem chain_answer : ∃ σ, chainPlan.IsAnswer chainTable chainStore σ ∧
    (∀ τ, chainPlan.IsAnswer chainTable chainStore τ → τ = σ) ∧
    chainTable.row σ =
      (Solution.empty.push "x" (some (.blank ⟨"a", by decide⟩))).push "y"
        (some (.blank ⟨"b", by decide⟩)) := by
  obtain ⟨answers, -, mem, rows, -⟩ :=
    drain_isAnswer chainEdits chainPlan chainTable chainPlan_proper.within (by decide)
  have computed := (drain_store (Store.wellIndexed_ofEdits chainEdits) chainPlan_proper).1
  have found : (chainPlan.answers chainTable chainStore.select).map chainTable.row =
      [(Solution.empty.push "x" (some (.blank ⟨"a", by decide⟩))).push "y"
        (some (.blank ⟨"b", by decide⟩))] := by
    decide +kernel
  have one : answers.map chainTable.row = _ := (rows.symm.trans computed).trans found
  obtain ⟨σ, rfl, row⟩ := List.map_eq_singleton_iff.mp one
  refine ⟨σ, (mem σ).mp (List.mem_singleton_self σ), fun τ hτ => ?_, row⟩
  exact List.mem_singleton.mp ((mem τ).mpr hτ)

end JoinState

end GraphPattern
