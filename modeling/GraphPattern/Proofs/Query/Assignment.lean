/-
# Slots in place of names

`VariableTable.slotted` is what a named variable is replaced by in the end: the slot at
which the finished table has its name.  Since a table only grows while variables are
assigned, every occurrence gets that slot, whenever it is visited.
-/
import GraphPattern.Proofs.Query.Pass
import GraphPattern.Proofs.Query.Table

namespace GraphPattern

namespace VariableTable

/-- The slot in place of a named variable; other terms, and names that are not in the
table, stay. -/
def slotted (T : VariableTable) (t : PatternTerm) : PatternTerm :=
  match t with
  | .named name =>
    match T.find? name with
    | some id => .slot id
    | none => t
  | _ => t

/-- A term is no named variable, or the table has its name. -/
def Covers (T : VariableTable) (t : PatternTerm) : Prop :=
  ∀ name, t = .named name → (T.find? name).isSome

theorem slotted_named {T : VariableTable} {name : String} {id : VarId}
    (h : T.find? name = some id) : T.slotted (.named name) = .slot id := by
  simp [slotted, h]

theorem slotted_other {t : PatternTerm} (h : ∀ name, t ≠ .named name) (T : VariableTable) :
    T.slotted t = t := by
  cases t with
  | named name => exact absurd rfl (h name)
  | _ => rfl

theorem Covers.of_other {t : PatternTerm} (h : ∀ name, t ≠ .named name) (T : VariableTable) :
    T.Covers t := fun name same => absurd same (h name)

end VariableTable

namespace Assignment

open VariableTable

theorem assignTerm_eq (T : VariableTable) (name : String) :
    assignTerm T (.named name) =
      ⟨.slot ((T.find? name).getD ⟨T.size⟩), T.withName name, none⟩ := by
  simp only [assignTerm, getOrDeclare_eq]

theorem assignTerm_named {T : VariableTable} (h : T.Regular) (name : String) :
    ∃ id T', assignTerm T (.named name) = ⟨.slot id, T', none⟩ ∧ T'.Regular ∧ T.Grows T' ∧
      T'.find? name = some id := by
  obtain ⟨id, T', got, regular, grows, found⟩ := h.getOrDeclare name
  rw [getOrDeclare_eq] at got
  cases got
  exact ⟨_, _, assignTerm_eq T name, regular, grows, found⟩

theorem assignTerm_other {t : PatternTerm} (h : ∀ name, t ≠ .named name) (T : VariableTable) :
    assignTerm T t = ⟨t, T, none⟩ := by
  cases t with
  | named name => exact absurd rfl (h name)
  | _ => rfl

theorem assignTerm_spec {T : VariableTable} (h : T.Regular) (t : PatternTerm) :
    ∃ u T', assignTerm T t = ⟨u, T', none⟩ ∧ T'.Regular ∧ T.Grows T' ∧ T'.Covers t ∧
      ∀ T'', T'.Grows T'' → u = T''.slotted t := by
  by_cases named : ∃ name, t = .named name
  · obtain ⟨name, rfl⟩ := named
    obtain ⟨id, T', step, regular, grows, found⟩ := assignTerm_named h name
    refine ⟨_, T', step, regular, grows, ?_, fun T'' later => ?_⟩
    · intro other same
      cases same
      exact Option.isSome_iff_exists.mpr ⟨id, found⟩
    · exact (slotted_named (later.find? found)).symm
  · have other : ∀ name, t ≠ .named name := fun name same => named ⟨name, same⟩
    exact ⟨t, T, assignTerm_other other T, h, .refl T, .of_other other T,
      fun T'' _ => (slotted_other other T'').symm⟩

/-- The step of assigning, as a visitor: it takes every term. -/
def visitor : Visitor VariableTable QueryError where
  step := assignTerm
  good := Regular
  later := Grows
  takes _ := True
  covers := Covers
  image := slotted
  later_refl := .refl
  later_trans := .trans
  covers_later covers later name same := by
    obtain ⟨id, found⟩ := Option.isSome_iff_exists.mp (covers name same)
    exact Option.isSome_iff_exists.mpr ⟨id, later.find? found⟩
  step_good t h := by
    obtain ⟨u, T', step, regular, -⟩ := assignTerm_spec h t
    rw [step]
    exact regular
  step_later t h := by
    obtain ⟨u, T', step, -, grows, -⟩ := assignTerm_spec h t
    rw [step]
    exact grows
  step_failure t h := by
    obtain ⟨u, T', step, -⟩ := assignTerm_spec h t
    rw [step]
    exact ⟨fun _ => trivial, fun _ => rfl⟩
  step_covers t h _ := by
    obtain ⟨u, T', step, -, -, covers, -⟩ := assignTerm_spec h t
    rw [step]
    exact covers
  step_image t h _ T'' later := by
    obtain ⟨u, T', step, -, -, -, image⟩ := assignTerm_spec h t
    rw [step] at later ⊢
    exact image T'' later

theorem assignPatterns_visits {T : VariableTable} (h : T.Regular) (ps : List TriplePattern) :
    visitor.Visits T (ps.flatMap TriplePattern.terms) (fun T' => ps.map fun p => p.map T'.slotted)
      (assignPatterns T ps) :=
  visitor.visitPatterns ps h

theorem assignConstraints_visits {T : VariableTable} (h : T.Regular) (es : List Expression) :
    visitor.Visits T (es.flatMap Expression.leaves) (fun T' => es.map fun e => e.map T'.slotted)
      (assignConstraints T es) :=
  visitor.visitExpressions es h

/-- The names that are selected. -/
def chosen (selects : List String) (selectAll : Bool) (patterns : List TriplePattern) :
    List String :=
  if selectAll then patternNames patterns else selects

/-- There is nothing to select and no pattern to select from. -/
def Vacant (selects : List String) (selectAll : Bool) (patterns : List TriplePattern) : Prop :=
  selectAll = false ∧ selects = [] ∧ patterns = []

/-- What an assignment comes to: a regular table with the select variables in front, that
has every name, and slots for all of them. -/
structure Assigns (selects : List String) (selectAll : Bool) (patterns : List TriplePattern)
    (constraints : List Expression) (a : Assignment) : Prop where
  regular : a.table.Regular
  columns : a.table.selected.map (·.name) =
    VariableTable.columnsOf (chosen selects selectAll patterns)
  patterns_eq : a.patterns = patterns.map fun p => p.map a.table.slotted
  constraints_eq : a.constraints = constraints.map fun e => e.map a.table.slotted
  covers_patterns : ∀ t ∈ patterns.flatMap TriplePattern.terms, a.table.Covers t
  covers_constraints : ∀ t ∈ constraints.flatMap Expression.leaves, a.table.Covers t

theorem assign_vacant {selects : List String} {selectAll : Bool} {patterns : List TriplePattern}
    (h : Vacant selects selectAll patterns) (constraints : List Expression) :
    assign selects selectAll patterns constraints =
      .error ⟨.noVariables, patterns, constraints⟩ := by
  obtain ⟨rfl, rfl, rfl⟩ := h
  rfl

theorem assign_ok {selects : List String} {selectAll : Bool} {patterns : List TriplePattern}
    {constraints : List Expression} {a : Assignment}
    (ok : assign selects selectAll patterns constraints = .ok a) :
    ∃ s, select ⟨.empty, []⟩ (chosen selects selectAll patterns) = .ok s ∧
      a.patterns = (assignPatterns s.table patterns).result ∧
      a.constraints =
        (assignConstraints (assignPatterns s.table patterns).state constraints).result ∧
      a.table = (assignConstraints (assignPatterns s.table patterns).state constraints).state ∧
      a.duplicates = if selectAll then [] else s.duplicates := by
  unfold assign at ok
  split at ok
  · cases ok
  · split at ok
    · cases ok
    · next s selected =>
        dsimp only at ok
        split at ok
        · cases ok
        · split at ok
          · cases ok
          · cases ok
            exact ⟨s, selected, rfl, rfl, rfl, rfl⟩

/-- Constraints add variables to the table; the patterns get the slots that they have without
constraints. -/
theorem assign_grows {selects : List String} {selectAll : Bool} {patterns : List TriplePattern}
    {constraints : List Expression} {a a₀ : Assignment}
    (ok : assign selects selectAll patterns constraints = .ok a)
    (ok₀ : assign selects selectAll patterns [] = .ok a₀) (regular₀ : a₀.table.Regular) :
    a₀.table.Grows a.table ∧ a.patterns = a₀.patterns := by
  obtain ⟨s, selected, patternsEq, -, tableEq, -⟩ := assign_ok ok
  obtain ⟨s', selected', patternsEq', -, tableEq', -⟩ := assign_ok ok₀
  obtain rfl : s = s' := Except.ok.inj (selected.symm.trans selected')
  have bare : a₀.table = (assignPatterns s.table patterns).state := tableEq'
  refine ⟨?_, patternsEq.trans patternsEq'.symm⟩
  rw [bare] at regular₀ ⊢
  rw [tableEq]
  exact (assignConstraints_visits regular₀ constraints).later

/-- **An assignment fails only if there is nothing to select.** -/
theorem assign_spec {selects : List String} {selectAll : Bool} {patterns : List TriplePattern}
    (h : ¬ Vacant selects selectAll patterns) (constraints : List Expression) :
    ∃ a, assign selects selectAll patterns constraints = .ok a ∧
      Assigns selects selectAll patterns constraints a := by
  obtain ⟨s, selected, regular, full, names⟩ :=
    select_eq_ok (chosen selects selectAll patterns) (s := ⟨.empty, []⟩) .empty rfl
  have p := assignPatterns_visits regular patterns
  have passed : (assignPatterns s.table patterns).failure = none :=
    p.failure.mpr fun _ _ => trivial
  have c := assignConstraints_visits p.good constraints
  have passed' : (assignConstraints (assignPatterns s.table patterns).state constraints).failure =
      none := c.failure.mpr fun _ _ => trivial
  have guard : (!selectAll && selects.isEmpty && patterns.isEmpty) = false := by
    refine Bool.eq_false_iff.mpr fun all => h ?_
    simpa [Vacant, and_assoc] using all
  have assigned : ∃ a, assign selects selectAll patterns constraints = .ok a := by
    have selected' : select ⟨.empty, []⟩
        (if selectAll then patternNames patterns else selects) = .ok s := selected
    rw [assign, guard]
    simp only [Bool.false_eq_true, if_false, selected', passed, passed']
    exact ⟨_, rfl⟩
  obtain ⟨a, ok⟩ := assigned
  obtain ⟨s', selected', patternsEq, constraintsEq, tableEq, -⟩ := assign_ok ok
  obtain rfl : s = s' := Except.ok.inj (selected.symm.trans selected')
  have grows : s.table.Grows a.table := tableEq ▸ .trans p.later c.later
  refine ⟨a, ok, tableEq ▸ c.good, ?_, ?_, ?_, ?_, ?_⟩
  · have all : s.table.selected = s.table.entries := by
      rw [VariableTable.selected, full]
      exact List.take_length
    rw [grows.selected (Nat.le_of_eq full), all, names]
    rfl
  · rw [patternsEq, tableEq]
    exact p.result passed _ c.later
  · rw [constraintsEq, tableEq]
    exact c.result passed' _ (.refl _)
  · rw [tableEq]
    exact fun t ht => visitor.covers_later (p.covers passed t ht) c.later
  · rw [tableEq]
    exact c.covers passed'

end Assignment

/-! ## Names that are selected again -/

/-- The occurrences of names that came earlier, in the list or among those before it. -/
def repeatsAfter (before : List String) : List String → List String
  | [] => []
  | name :: names =>
    (if name ∈ before then [name] else []) ++ repeatsAfter (before ++ [name]) names

/-- The occurrences of names that came earlier in the list. -/
def repeats (names : List String) : List String := repeatsAfter [] names

theorem Assignment.select_duplicates {names : List String} {s s' : Selection}
    {before : List String} (known : ∀ x, (s.table.find? x).isSome ↔ x ∈ before)
    (ok : select s names = .ok s') :
    s'.duplicates = s.duplicates ++ repeatsAfter before names := by
  induction names generalizing s before with
  | nil =>
      cases ok
      simp [repeatsAfter]
  | cons name names ih =>
      rcases VariableTable.select_cons_ok ok with ⟨old, rest⟩ | ⟨new, rest⟩
      · have mem := (known name).mp old
        have known' : ∀ x, (s.table.find? x).isSome ↔ x ∈ before ++ [name] := by
          intro x
          rw [known x, List.mem_append, List.mem_singleton]
          refine ⟨.inl, fun h => h.elim id ?_⟩
          rintro rfl
          exact mem
        rw [ih (s := ⟨s.table, s.duplicates ++ [name]⟩) known' rest]
        simp [repeatsAfter, mem]
      · have absent : name ∉ before := by
          rw [← known, new]
          exact Bool.false_ne_true
        have known' : ∀ x, ((s.table.push name true).find? x).isSome ↔ x ∈ before ++ [name] := by
          intro x
          rw [VariableTable.find?_push, List.mem_append, List.mem_singleton, ← known x]
          by_cases same : name = x
          · simp [same]
          · simp [same, Ne.symm same]
        rw [ih (s := ⟨s.table.push name true, s.duplicates⟩) known' rest]
        simp [repeatsAfter, absent]

theorem Assignment.assign_duplicates {selects : List String} {selectAll : Bool}
    {patterns : List TriplePattern} {constraints : List Expression} {a : Assignment}
    (ok : assign selects selectAll patterns constraints = .ok a) :
    a.duplicates = if selectAll then [] else repeats selects := by
  obtain ⟨s, selected, -, -, -, duplicates⟩ := assign_ok ok
  rw [duplicates]
  cases selectAll with
  | true => rfl
  | false =>
      have none (x : String) : (VariableTable.empty.find? x).isSome ↔ x ∈ [] := by
        simp [VariableTable.find?, VariableTable.empty]
      simpa [repeats, chosen] using select_duplicates none selected

end GraphPattern
