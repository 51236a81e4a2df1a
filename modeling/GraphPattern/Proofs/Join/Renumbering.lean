/-
# Joins do not look at the numbers of slots

Two plans may differ in the places that their variables have in the table: a `Renumbering`
leads from the places of one table to those of the other.  A join by one plan and a join by
the other then go side by side, whatever their backend answers.  At every step they are
`Twin`s: they have the same phase, the same levels open at the same cursors, and done the
same to the source, and a variable has the same value in both tables.  `Twin.step` says this of
a step, `Twin.next` of a pull and `Twin.drain` of a whole run.
-/
import GraphPattern.Proofs.Join.Answers
import GraphPattern.Proofs.Join.Disturbance
import GraphPattern.Proofs.Query.Pass

namespace GraphPattern

/-! ## Places of one table as places of another -/

/-- A place in another table for each place of a table; different ones stay different. -/
structure Renumbering (T T' : VariableTable) where
  place : VarId → VarId
  injective : Function.Injective place

namespace VariableTable

theorem value_setValue {table : VariableTable} {other : VarId} (h : other.index < table.size)
    (id : VarId) (value : Option Term) :
    (table.setValue id value).value other = if other = id then value else table.value other := by
  obtain ⟨i⟩ := id
  obtain ⟨j⟩ := other
  unfold size at h
  by_cases same : j = i
  · subst same
    simp [VariableTable.value, get?, setValue, List.getElem?_eq_getElem h]
  · simp [VariableTable.value, get?, setValue, Ne.symm same, same]

end VariableTable

namespace Renumbering

variable {T T' : VariableTable} (φ : Renumbering T T')

/-- Both tables have the place. -/
def Shared (id : VarId) : Prop := id.index < T.size ∧ (φ.place id).index < T'.size

/-- The tables declare what `T` and `T'` do, and a place in both has one value. -/
structure Relates (t t' : VariableTable) : Prop where
  declared : t.reset = T.reset
  declared' : t'.reset = T'.reset
  value : ∀ id, φ.Shared id → t'.value (φ.place id) = t.value id

theorem relates_reset : φ.Relates T.reset T'.reset where
  declared := T.reset_reset
  declared' := T'.reset_reset
  value id shared := by
    rw [T.reset_eq_assign, T'.reset_eq_assign, T.value_assign _ shared.1,
      T'.value_assign _ shared.2]
    rfl

variable {φ} {t t' : VariableTable}

theorem Relates.setValue (h : φ.Relates t t') {id : VarId} (value : Option Term) :
    φ.Relates (t.setValue id value) (t'.setValue (φ.place id) value) where
  declared := (t.reset_setValue id value).trans h.declared
  declared' := (t'.reset_setValue (φ.place id) value).trans h.declared'
  value other shared := by
    have size := (VariableTable.size_of_reset_eq h.declared).1
    have size' := (VariableTable.size_of_reset_eq h.declared').1
    rw [VariableTable.value_setValue (size' ▸ shared.2),
      VariableTable.value_setValue (size ▸ shared.1), h.value other shared]
    by_cases same : other = id
    · rw [if_pos same, if_pos (congrArg φ.place same)]
    · rw [if_neg same, if_neg (mt (@φ.injective _ _) same)]

theorem Relates.reset (h : φ.Relates t t') : φ.Relates t.reset t'.reset := by
  rw [h.declared, h.declared']
  exact φ.relates_reset

end Renumbering

/-! ## Renumbered patterns -/

def PatternTerm.renumber (place : VarId → VarId) : PatternTerm → PatternTerm
  | .slot id => .slot (place id)
  | x => x

def Slot.renumber (place : VarId → VarId) : Slot → Slot
  | .fixed u => .fixed u
  | .opening id => .opening (place id)

def PatternView.renumber (place : VarId → VarId) (v : PatternView) : PatternView :=
  ⟨v.subject.renumber place, v.predicate.renumber place, v.object.renumber place⟩

def Binder.renumber (place : VarId → VarId) (d : Binder) : Binder := { d with id := place d.id }

def Level.renumber (place : VarId → VarId) (l : Level) : Level :=
  { l with binders := l.binders.map (Binder.renumber place) }

@[simp] theorem Level.pattern_renumber (place : VarId → VarId) (l : Level) :
    (l.renumber place).pattern = l.pattern := rfl

@[simp] theorem Level.number_renumber (place : VarId → VarId) (l : Level) :
    (l.renumber place).number = l.number := rfl

@[simp] theorem Level.cursor_renumber (place : VarId → VarId) (l : Level) :
    (l.renumber place).cursor = l.cursor := rfl

@[simp] theorem Level.binders_renumber (place : VarId → VarId) (l : Level) :
    (l.renumber place).binders = l.binders.map (Binder.renumber place) := rfl

theorem Slot.term?_renumber (place : VarId → VarId) (s : Slot) :
    (s.renumber place).term? = s.term? := by
  cases s <;> rfl

theorem PatternView.selector?_renumber (place : VarId → VarId) (v : PatternView) :
    (v.renumber place).selector? = v.selector? := by
  unfold selector? fix renumber
  simp only [Slot.term?_renumber]

theorem PatternView.binders_renumber (place : VarId → VarId) (v : PatternView) :
    (v.renumber place).binders = v.binders.map (Binder.renumber place) := by
  obtain ⟨subject, predicate, object⟩ := v
  cases subject <;> cases predicate <;> cases object <;> rfl

namespace Renumbering

variable {T T' : VariableTable} {φ : Renumbering T T'} {t t' : VariableTable}

theorem Relates.slotUnder (h : φ.Relates t t') {x : PatternTerm}
    (shared : ∀ id, x = .slot id → φ.Shared id) :
    (x.renumber φ.place).slotUnder t' = (x.slotUnder t).map (Slot.renumber φ.place) := by
  cases x with
  | slot id =>
      have same := h.value id (shared id rfl)
      unfold PatternTerm.renumber PatternTerm.slotUnder
      dsimp only
      rw [same]
      cases t.value id <;> rfl
  | _ => rfl

theorem Relates.viewUnder (h : φ.Relates t t') {p : TriplePattern}
    (shared : ∀ x ∈ p.terms, ∀ id, x = .slot id → φ.Shared id) :
    (p.map (PatternTerm.renumber φ.place)).viewUnder t' =
      (p.viewUnder t).map (PatternView.renumber φ.place) := by
  unfold TriplePattern.viewUnder TriplePattern.map
  dsimp only
  rw [h.slotUnder (shared p.subject (p.term_mem .subject)),
    h.slotUnder (shared p.predicate (p.term_mem .predicate)),
    h.slotUnder (shared p.object (p.term_mem .object))]
  cases p.subject.slotUnder t with
  | error e => rfl
  | ok s =>
      cases p.predicate.slotUnder t with
      | error e => rfl
      | ok s' => cases p.object.slotUnder t <;> rfl

theorem Relates.unify (h : φ.Relates t t') (triple : Triple) {binders : List Binder}
    (shared : ∀ d ∈ binders, φ.Shared d.id) :
    (t'.unify triple (binders.map (Binder.renumber φ.place))).1 = (t.unify triple binders).1 ∧
      φ.Relates (t.unify triple binders).2
        (t'.unify triple (binders.map (Binder.renumber φ.place))).2 := by
  induction binders generalizing t t' with
  | nil => exact ⟨rfl, h⟩
  | cons d binders ih =>
      obtain ⟨first, rest⟩ := List.forall_mem_cons.mp shared
      have same : t'.value (d.renumber φ.place).id = t.value d.id := h.value d.id first
      rw [List.map_cons, VariableTable.unify, VariableTable.unify, same]
      cases t.value d.id with
      | none => exact ih (h.setValue _) rest
      | some u =>
          by_cases agrees : u = triple.term d.position
          · simp only [Binder.renumber, agrees, if_true]
            exact ih h rest
          · simp only [Binder.renumber, agrees, if_false]
            exact ⟨trivial, h⟩

theorem Relates.release (h : φ.Relates t t') (binders : List Binder) :
    φ.Relates (t.release binders) (t'.release (binders.map (Binder.renumber φ.place))) := by
  induction binders generalizing t t' with
  | nil => exact h
  | cons d binders ih => exact ih (h.setValue none)

end Renumbering

/-! ## Parts of a step -/

namespace JoinState

variable {ω : Type}

/-- What a look at a candidate does, once the source was told. -/
def tryCandidate (s : JoinState ω) (l : Level) (triple : Triple) (behind todo : List Nat) :
    StepResult × JoinState ω :=
  let u := { s with
    table := (s.table.unify triple l.binders).2
    levels := l :: s.others l.pattern
    done := l.pattern :: behind
    todo := todo }
  if (s.table.unify triple l.binders).1 then (.running, { u with phase := .descending })
  else (.running, { u.release l with phase := .retreating })

theorem examine_eq (b : Backend ω) (s : JoinState ω) (l : Level) (behind todo : List Nat) :
    s.examine b l behind todo =
      match l.cursor.current with
      | some triple => tryCandidate (s.tell b.reads l.number) l triple behind todo
      | none => (s.tell b.reads l.number).leave b l behind todo := rfl

/-- What a step does that is not stopped. -/
def proceed (plan : JoinPlan) (b : Backend ω) (s : JoinState ω) : StepResult × JoinState ω :=
  match s.phase, s.done, s.todo with
  | .retreating, index :: behind, _ => resumeLevel plan b s index behind
  | .descending, _, index :: todo => enterLevel plan b s index todo
  | .descending, _, [] => complete plan s
  | _, _, _ => (.exhausted, s)

theorem step_eq (plan : JoinPlan) (b : Backend ω) (s : JoinState ω) :
    step plan b s =
      if s.phase = .finished then (.exhausted, s)
      else if (b.stops s.world).1 then
        (.failed .aborted, { s with world := (b.stops s.world).2 })
      else proceed plan b { s with world := (b.stops s.world).2 } := rfl

end JoinState

/-! ## Plans and states -/

namespace Renumbering

variable {T T' : VariableTable} (φ : Renumbering T T') {ω : Type}

/-- Two plans differ in the places of their variables. -/
structure Plans (plan plan' : JoinPlan) : Prop where
  patterns : plan'.patterns = plan.patterns.map fun p => p.map (PatternTerm.renumber φ.place)
  order : plan'.order = plan.order
  shared : ∀ p ∈ plan.patterns, ∀ x ∈ p.terms, ∀ id, x = .slot id → φ.Shared id
  accepts : ∀ t t', φ.Relates t t' → plan'.accepts t' t'.value = plan.accepts t t.value

/-- A state with the places of the other table, and with that table. -/
def recast (s : JoinState ω) (table : VariableTable) (cache : RegexCache) : JoinState ω :=
  { s with levels := s.levels.map (Level.renumber φ.place), table := table, cache := cache }

/-- Two states differ in the places of their variables and in what they remember. -/
inductive Twin (s : JoinState ω) : JoinState ω → Prop where
  | mk {table : VariableTable} {cache : RegexCache} (tables : φ.Relates s.table table)
    (shared : ∀ l ∈ s.levels, ∀ d ∈ l.binders, φ.Shared d.id) (sound : s.cache.Sound)
    (sound' : cache.Sound) : Twin s (φ.recast s table cache)

/-- Two results are the same, or rows of tables that are related. -/
inductive SameResult : StepResult → StepResult → Prop where
  | running : SameResult .running .running
  | exhausted : SameResult .exhausted .exhausted
  | failed (e : QueryError) : SameResult (.failed e) (.failed e)
  | solution {t t' : VariableTable} (h : φ.Relates t t') :
      SameResult (.solution (.ofTable t)) (.solution (.ofTable t'))

/-- Two steps have the same result and lead to twins. -/
structure Alike (r r' : StepResult × JoinState ω) : Prop where
  result : φ.SameResult r.1 r'.1
  state : φ.Twin r.2 r'.2

variable {φ} {s s' : JoinState ω} {plan plan' : JoinPlan} {b : Backend ω}

theorem Twin.tables (h : φ.Twin s s') : φ.Relates s.table s'.table := by
  obtain ⟨tables, -, -, -⟩ := h
  exact tables

theorem Twin.shared (h : φ.Twin s s') : ∀ l ∈ s.levels, ∀ d ∈ l.binders, φ.Shared d.id := by
  obtain ⟨-, shared, -, -⟩ := h
  exact shared

theorem Twin.sound (h : φ.Twin s s') : s.cache.Sound ∧ s'.cache.Sound := by
  obtain ⟨-, -, sound, sound'⟩ := h
  exact ⟨sound, sound'⟩

theorem Twin.levels (h : φ.Twin s s') : s'.levels = s.levels.map (Level.renumber φ.place) := by
  obtain ⟨-, -, -, -⟩ := h
  rfl

theorem Twin.world (h : φ.Twin s s') : s'.world = s.world := by
  obtain ⟨-, -, -, -⟩ := h
  rfl

theorem Twin.opens (h : φ.Twin s s') : s'.opens = s.opens := by
  obtain ⟨-, -, -, -⟩ := h
  rfl

theorem Twin.todo (h : φ.Twin s s') : s'.todo = s.todo := by
  obtain ⟨-, -, -, -⟩ := h
  rfl

theorem Twin.done (h : φ.Twin s s') : s'.done = s.done := by
  obtain ⟨-, -, -, -⟩ := h
  rfl

theorem Twin.phase (h : φ.Twin s s') : s'.phase = s.phase := by
  obtain ⟨-, -, -, -⟩ := h
  rfl

/-! ## One step -/

theorem Twin.tell (h : φ.Twin s s') (call : Nat → ω → ω) (number : Option Nat) :
    φ.Twin (s.tell call number) (s'.tell call number) := by
  obtain ⟨tables, shared, sound, sound'⟩ := h
  cases number with
  | none => exact ⟨tables, shared, sound, sound'⟩
  | some k => exact ⟨tables, shared, sound, sound'⟩

theorem Twin.release (h : φ.Twin s s') (l : Level) :
    φ.Twin (s.release l) (s'.release (l.renumber φ.place)) := by
  obtain ⟨tables, shared, sound, sound'⟩ := h
  exact ⟨tables.release l.binders, shared, sound, sound'⟩

theorem Twin.closeLevel (h : φ.Twin s s') (l : Level) :
    φ.Twin (s.closeLevel b l) (s'.closeLevel b (l.renumber φ.place)) :=
  (h.release l).tell (fun k => b.closes k l.cursor.close) l.number

theorem Twin.level? (h : φ.Twin s s') (index : Nat) :
    s'.level? index = (s.level? index).map (Level.renumber φ.place) := by
  obtain ⟨-, -, -, -⟩ := h
  exact List.find?_map ..

theorem Twin.others (h : φ.Twin s s') (index : Nat) :
    s'.others index = (s.others index).map (Level.renumber φ.place) := by
  obtain ⟨-, -, -, -⟩ := h
  exact List.filter_map ..

theorem Twin.retreat (h : φ.Twin s s') : φ.Alike s.retreat s'.retreat := by
  obtain ⟨tables, shared, sound, sound'⟩ := h
  by_cases outside : s.done.isEmpty = true
  · simp only [JoinState.retreat, recast, outside, if_true]
    exact ⟨.exhausted, tables, shared, sound, sound'⟩
  · simp only [JoinState.retreat, recast, outside]
    exact ⟨.running, tables, shared, sound, sound'⟩

theorem Twin.countRound (h : φ.Twin s s') (index : Nat) (behind : List Nat) :
    s.countRound index behind = none ∧ s'.countRound index behind = none ∨
      ∃ u u', s.countRound index behind = some u ∧ s'.countRound index behind = some u' ∧
        φ.Twin u u' := by
  obtain ⟨tables, shared, sound, sound'⟩ := h
  unfold JoinState.countRound recast
  dsimp only
  split
  · cases s.rounds with
    | zero => exact .inl ⟨rfl, rfl⟩
    | succ n => exact .inr ⟨_, _, rfl, rfl, tables, shared, sound, sound'⟩
  · exact .inr ⟨_, _, rfl, rfl, tables, shared, sound, sound'⟩

theorem Twin.move (h : φ.Twin s s') {levels : List Level}
    (shared : ∀ l ∈ levels, ∀ d ∈ l.binders, φ.Shared d.id) (done todo : List Nat) :
    φ.Twin { s with levels := levels, done := done, todo := todo }
      { s' with levels := levels.map (Level.renumber φ.place), done := done, todo := todo } := by
  obtain ⟨tables, -, sound, sound'⟩ := h
  exact ⟨tables, shared, sound, sound'⟩

theorem Twin.shared_others (h : φ.Twin s s') (index : Nat) :
    ∀ l ∈ s.others index, ∀ d ∈ l.binders, φ.Shared d.id := by
  obtain ⟨-, shared, -, -⟩ := h
  exact fun l mem => shared l (List.mem_filter.mp mem |>.1)

theorem Twin.leave (h : φ.Twin s s') (l : Level) (behind todo : List Nat) :
    φ.Alike (s.leave b l behind todo) (s'.leave b (l.renumber φ.place) behind todo) := by
  have moved := h.move (h.shared_others l.pattern) behind (l.pattern :: todo)
  rw [← h.others] at moved
  unfold JoinState.leave
  simp only [Level.pattern_renumber]
  rcases (moved.closeLevel l).countRound l.pattern behind with ⟨given, given'⟩ |
    ⟨u, u', counted, counted', twin⟩
  · rw [given, given']
    exact ⟨.exhausted, moved⟩
  · rw [counted, counted']
    exact twin.retreat

theorem Twin.tryCandidate (h : φ.Twin s s') {l : Level} (bound : ∀ d ∈ l.binders, φ.Shared d.id)
    (triple : Triple) (behind todo : List Nat) :
    φ.Alike (s.tryCandidate l triple behind todo)
      (s'.tryCandidate (l.renumber φ.place) triple behind todo) := by
  have others := h.others l.pattern
  have kept : ∀ k ∈ l :: s.others l.pattern, ∀ d ∈ k.binders, φ.Shared d.id :=
    List.forall_mem_cons.mpr ⟨bound, h.shared_others l.pattern⟩
  unfold JoinState.tryCandidate
  simp only [Level.pattern_renumber, Level.binders_renumber, others]
  obtain ⟨tables, -, sound, sound'⟩ := h
  obtain ⟨agrees, tables⟩ := tables.unify triple bound
  simp only [recast, agrees]
  split
  · exact ⟨.running, tables, kept, sound, sound'⟩
  · exact ⟨.running, tables.release l.binders, kept, sound, sound'⟩

theorem Twin.examine (h : φ.Twin s s') {l : Level} (bound : ∀ d ∈ l.binders, φ.Shared d.id)
    (behind todo : List Nat) :
    φ.Alike (s.examine b l behind todo) (s'.examine b (l.renumber φ.place) behind todo) := by
  have told := h.tell b.reads l.number
  rw [JoinState.examine_eq, JoinState.examine_eq, Level.cursor_renumber, Level.number_renumber]
  cases l.cursor.current with
  | none => exact told.leave l behind todo
  | some triple => exact told.tryCandidate bound triple behind todo

theorem Twin.openCursor (h : φ.Twin s s') (p : TripleSelector) :
    (JoinState.openCursor b s' p).1 = (JoinState.openCursor b s p).1 ∧
      φ.Twin (JoinState.openCursor b s p).2 (JoinState.openCursor b s' p).2 := by
  obtain ⟨tables, shared, sound, sound'⟩ := h
  unfold JoinState.openCursor recast
  dsimp only
  cases (b.candidates p s.world).1 with
  | ok triples => exact ⟨rfl, tables, shared, sound, sound'⟩
  | error e => exact ⟨rfl, tables, shared, sound, sound'⟩

theorem Twin.openLevel (h : φ.Twin s s') (plans : φ.Plans plan plan') (index : Nat)
    (behind todo : List Nat) :
    φ.Alike (JoinState.openLevel plan b s index behind todo)
      (JoinState.openLevel plan' b s' index behind todo) := by
  unfold JoinState.openLevel
  rw [plans.patterns, List.getElem?_map]
  cases found : plan.patterns[index]? with
  | none => exact ⟨.failed _, h⟩
  | some p =>
      have viewed := h.tables.viewUnder (plans.shared p (List.mem_of_getElem? found))
      dsimp only [Option.map_some]
      rw [viewed]
      cases view : p.viewUnder s.table with
      | error e => exact ⟨.failed _, h⟩
      | ok v =>
          have bound : ∀ d ∈ v.binders, φ.Shared d.id := fun d mem =>
            plans.shared p (List.mem_of_getElem? found) _
              (TriplePattern.slot_of_binder view mem) _ rfl
          dsimp only [Except.map]
          rw [PatternView.selector?_renumber, PatternView.binders_renumber]
          cases v.selector? with
          | none => exact h.examine (l := ⟨index, none, .ofList [], v.binders⟩) bound behind todo
          | some sel =>
              obtain ⟨same, twin⟩ := h.openCursor (b := b) sel
              dsimp only
              rw [h.opens]
              generalize JoinState.openCursor b s sel = r at same twin
              generalize JoinState.openCursor b s' sel = r' at same twin
              obtain ⟨answer, u⟩ := r
              obtain ⟨answer', u'⟩ := r'
              obtain rfl : answer' = answer := same
              cases answer' with
              | error e => exact ⟨.failed _, twin⟩
              | ok cursor =>
                  exact twin.examine (l := ⟨index, some s.opens, cursor, v.binders⟩) bound
                    behind todo

theorem Twin.advanceCursor (h : φ.Twin s s') (l : Level) :
    (JoinState.advanceCursor b s' (l.renumber φ.place)).1 = (JoinState.advanceCursor b s l).1 ∧
      φ.Twin (JoinState.advanceCursor b s l).2
        (JoinState.advanceCursor b s' (l.renumber φ.place)).2 := by
  obtain ⟨tables, shared, sound, sound'⟩ := h
  unfold JoinState.advanceCursor
  rw [Level.number_renumber, Level.cursor_renumber]
  cases l.number with
  | none => exact ⟨rfl, tables, shared, sound, sound'⟩
  | some k =>
      simp only [recast]
      cases (b.advanceFault k s.world).1 with
      | some e => exact ⟨rfl, tables, shared, sound, sound'⟩
      | none => exact ⟨rfl, tables, shared, sound, sound'⟩

theorem Twin.advanceLevel (h : φ.Twin s s') {l : Level} (bound : ∀ d ∈ l.binders, φ.Shared d.id)
    (behind : List Nat) :
    φ.Alike (JoinState.advanceLevel b s l behind)
      (JoinState.advanceLevel b s' (l.renumber φ.place) behind) := by
  obtain ⟨same, twin⟩ := (h.release l).advanceCursor (b := b) l
  unfold JoinState.advanceLevel
  generalize JoinState.advanceCursor b (s.release l) l = r at same twin
  generalize JoinState.advanceCursor b (s'.release (l.renumber φ.place)) (l.renumber φ.place) = r'
    at same twin
  obtain ⟨answer, u⟩ := r
  obtain ⟨answer', u'⟩ := r'
  obtain rfl : answer' = answer := same
  cases answer' with
  | error e => exact ⟨.failed _, twin⟩
  | ok cursor =>
      have todo : u'.todo = u.todo := twin.todo
      dsimp only
      rw [todo]
      exact twin.examine (l := { l with cursor := cursor }) bound behind u.todo

theorem Twin.enterLevel (h : φ.Twin s s') (plans : φ.Plans plan plan') (index : Nat)
    (todo : List Nat) :
    φ.Alike (JoinState.enterLevel plan b s index todo)
      (JoinState.enterLevel plan' b s' index todo) := by
  unfold JoinState.enterLevel
  rw [h.level?, h.done]
  cases found : s.level? index with
  | none => exact h.openLevel plans index s.done todo
  | some l => exact h.examine (h.shared l (List.mem_of_find?_eq_some found)) s.done todo

theorem Twin.resumeLevel (h : φ.Twin s s') (plans : φ.Plans plan plan') (index : Nat)
    (behind : List Nat) :
    φ.Alike (JoinState.resumeLevel plan b s index behind)
      (JoinState.resumeLevel plan' b s' index behind) := by
  unfold JoinState.resumeLevel
  rw [h.level?, h.todo]
  cases found : s.level? index with
  | none => exact h.openLevel plans index behind s.todo
  | some l => exact h.advanceLevel (h.shared l (List.mem_of_find?_eq_some found)) behind

theorem Twin.remember (h : φ.Twin s s') {cache cache' : RegexCache} (sound : cache.Sound)
    (sound' : cache'.Sound) :
    φ.Twin { s with cache := cache } { s' with cache := cache' } := by
  obtain ⟨tables, shared, -, -⟩ := h
  exact ⟨tables, shared, sound, sound'⟩

theorem Twin.emit (h : φ.Twin s s') : φ.Alike s.emit s'.emit := by
  obtain ⟨tables, shared, sound, sound'⟩ := h
  exact ⟨.solution tables, tables, shared, sound, sound'⟩

theorem Twin.complete (h : φ.Twin s s') (plans : φ.Plans plan plan') :
    φ.Alike (JoinState.complete plan s) (JoinState.complete plan' s') := by
  obtain ⟨cache, kept, judged⟩ := JoinState.judge_eq plan h.sound.1 s.table.assign_self.symm
  obtain ⟨cache', kept', judged'⟩ := JoinState.judge_eq plan' h.sound.2 s'.table.assign_self.symm
  have twin := h.remember kept kept'
  unfold JoinState.complete
  rw [judged, judged', plans.accepts _ _ h.tables]
  cases plan.accepts s.table s.table.value with
  | true => exact twin.emit
  | false => exact twin.retreat

theorem Twin.inWorld (h : φ.Twin s s') (world : ω) :
    φ.Twin { s with world := world } { s' with world := world } := by
  obtain ⟨tables, shared, sound, sound'⟩ := h
  exact ⟨tables, shared, sound, sound'⟩

theorem Twin.proceed (h : φ.Twin s s') (plans : φ.Plans plan plan') :
    φ.Alike (JoinState.proceed plan b s) (JoinState.proceed plan' b s') := by
  unfold JoinState.proceed
  rw [h.phase, h.done, h.todo]
  split
  · next index behind _ _ => exact h.resumeLevel plans index behind
  · next index todo _ _ => exact h.enterLevel plans index todo
  · exact h.complete plans
  · exact ⟨.exhausted, h⟩

/-- **Twins take the same step.** -/
theorem step_alike (plans : φ.Plans plan plan') (h : φ.Twin s s') :
    φ.Alike (JoinState.step plan b s) (JoinState.step plan' b s') := by
  have twin := h.inWorld (b.stops s.world).2
  rw [JoinState.step_eq, JoinState.step_eq, h.world]
  by_cases finished : s.phase = .finished
  · rw [if_pos finished, if_pos (h.phase.trans finished)]
    exact ⟨.exhausted, h⟩
  · have running : s'.phase ≠ .finished := by rwa [h.phase]
    rw [if_neg finished, if_neg running]
    split
    · exact ⟨.failed .aborted, twin⟩
    · exact twin.proceed plans

/-! ## A run -/

theorem foldl_closeLevel_twin (levels : List Level) (h : φ.Twin s s') :
    φ.Twin (levels.foldl (JoinState.closeLevel b) s)
      ((levels.map (Level.renumber φ.place)).foldl (JoinState.closeLevel b) s') := by
  induction levels generalizing s s' with
  | nil => exact h
  | cons l levels ih => exact ih (h.closeLevel l)

theorem Twin.clear (h : φ.Twin s s') :
    φ.Twin { s with phase := .finished, table := s.table.reset }
      { s' with phase := .finished, table := s'.table.reset } := by
  obtain ⟨tables, shared, sound, sound'⟩ := h
  exact ⟨tables.reset, shared, sound, sound'⟩

theorem Twin.finish (h : φ.Twin s s') : φ.Twin (s.finish b) (s'.finish b) := by
  have sorted : JoinState.inPatternOrder s'.levels =
      (JoinState.inPatternOrder s.levels).map (Level.renumber φ.place) := by
    rw [h.levels]
    unfold JoinState.inPatternOrder
    exact (List.map_mergeSort (f := Level.renumber φ.place) fun _ _ _ _ => rfl).symm
  have bare : φ.Twin { s with levels := [] } { s' with levels := [] } := by
    obtain ⟨tables, -, sound, sound'⟩ := h
    exact ⟨tables, by simp, sound, sound'⟩
  have closed := foldl_closeLevel_twin (b := b) (JoinState.inPatternOrder s.levels) bare
  rw [← sorted] at closed
  exact closed.clear

theorem Twin.step (h : φ.Twin s s') (plans : φ.Plans plan plan') {r : StepResult}
    {u : JoinState ω} (stepped : JoinState.step plan b s = (r, u)) :
    ∃ r' u', JoinState.step plan' b s' = (r', u') ∧ φ.SameResult r r' ∧ φ.Twin u u' := by
  obtain ⟨result, twin⟩ := step_alike (b := b) plans h
  rw [stepped] at result twin
  exact ⟨_, _, rfl, result, twin⟩

/-- Two deliveries are the same, or rows of tables that are related. -/
inductive SameDelivery (φ : Renumbering T T') : Option Delivery → Option Delivery → Prop where
  | none : SameDelivery φ none none
  | error (e : QueryError) : SameDelivery φ (some (.error e)) (some (.error e))
  | row {t t' : VariableTable} (h : φ.Relates t t') :
      SameDelivery φ (some (.ok (.ofTable t))) (some (.ok (.ofTable t')))

/-- **Twins deliver the same**, and stay twins. -/
theorem Twin.next (h : φ.Twin s s') (plans : φ.Plans plan plan') {d : Option Delivery}
    {u : JoinState ω} (pulled : JoinState.next plan b s = (d, u)) :
    ∃ d' u', JoinState.next plan' b s' = (d', u') ∧ φ.SameDelivery d d' ∧ φ.Twin u u' := by
  induction s using JoinState.next.induct plan b generalizing s' with
  | case1 s v stepped below ih =>
      obtain ⟨r', v', stepped', result, twin⟩ := h.step plans stepped
      cases result
      rw [JoinState.next_of_running stepped] at pulled
      rw [JoinState.next_of_running stepped']
      exact ih twin pulled
  | case2 s row v stepped =>
      obtain ⟨r', v', stepped', result, twin⟩ := h.step plans stepped
      cases (JoinState.next_of_solution stepped).symm.trans pulled
      cases result with
      | solution tables => exact ⟨_, _, JoinState.next_of_solution stepped', .row tables, twin⟩
  | case3 s v stepped =>
      obtain ⟨r', v', stepped', result, twin⟩ := h.step plans stepped
      cases (JoinState.next_of_exhausted stepped).symm.trans pulled
      cases result
      exact ⟨_, _, JoinState.next_of_exhausted stepped', .none, twin.finish⟩
  | case4 s e v stepped =>
      obtain ⟨r', v', stepped', result, twin⟩ := h.step plans stepped
      cases (JoinState.next_of_failed stepped).symm.trans pulled
      cases result
      exact ⟨_, _, JoinState.next_of_failed stepped', .error e, twin.finish⟩

/-- **Twins run alike**: the rows of one run are those of tables, and the rows of the other
are those of the tables that are related to them, and both runs end in the same way. -/
theorem Twin.drain (h : φ.Twin s s') (plans : φ.Plans plan plan') (b : Backend ω) :
    ∃ tables : List (VariableTable × VariableTable),
      (∀ pair ∈ tables, φ.Relates pair.1 pair.2) ∧
        (JoinState.drain plan b s).rows = tables.map (fun pair => .ofTable pair.1) ∧
        (JoinState.drain plan' b s').rows = tables.map (fun pair => .ofTable pair.2) ∧
        (JoinState.drain plan' b s').error = (JoinState.drain plan b s).error := by
  induction s using JoinState.drain.induct plan b generalizing s' with
  | case1 s row u pulled below ih =>
      obtain ⟨d', u', pulled', delivery, twin⟩ := h.next plans pulled
      cases delivery with
      | row related =>
          obtain ⟨tables, all, rows, rows', error⟩ := ih twin
          obtain ⟨first, ends⟩ := JoinState.drain_of_row pulled
          obtain ⟨first', ends'⟩ := JoinState.drain_of_row pulled'
          refine ⟨(_, _) :: tables, List.forall_mem_cons.mpr ⟨related, all⟩, ?_, ?_, ?_⟩
          · rw [first, rows, List.map_cons]
          · rw [first', rows', List.map_cons]
          · rw [ends, ends', error]
  | case2 s e u pulled =>
      obtain ⟨d', u', pulled', delivery, -⟩ := h.next plans pulled
      cases delivery
      rw [JoinState.drain_of_error pulled, JoinState.drain_of_error pulled']
      exact ⟨[], List.forall_mem_nil _, rfl, rfl, rfl⟩
  | case3 s u pulled =>
      obtain ⟨d', u', pulled', delivery, -⟩ := h.next plans pulled
      cases delivery
      rw [JoinState.drain_of_none pulled, JoinState.drain_of_none pulled']
      exact ⟨[], List.forall_mem_nil _, rfl, rfl, rfl⟩

theorem twin_start (plans : φ.Plans plan plan') (world : ω) :
    φ.Twin (JoinState.start plan T world) (JoinState.start plan' T' world) := by
  unfold JoinState.start
  rw [plans.order]
  exact ⟨φ.relates_reset, nofun, .empty, .empty⟩

end Renumbering

end GraphPattern
