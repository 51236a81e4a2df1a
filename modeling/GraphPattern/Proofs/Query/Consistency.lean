/-
# A table of variables stays consistent

A table keeps its variables as a list of entries, as a map from names to places and by the
number of the selected ones.  Whatever is called, the three agree (`Consistent`): an entry has
its place for its id, the map leads from the names of the entries to their places and from
nothing else, and the select variables are in front.  Only a declaration adds an entry, always
behind the others; of those that are there a call changes the values at most (`Keeps`), and
`bind` and `unbind` change that of one entry, or nothing if there is none in that place.
-/
import GraphPattern.Proofs.Join.Substitution
import GraphPattern.Proofs.Query.Table

namespace GraphPattern

/-- A call that may change a table of variables. -/
inductive TableCall where
  | declare (name : String) (selected : Bool)
  | getOrDeclare (name : String)
  | bind (id : VarId) (value : Term)
  | unbind (id : VarId)
  | reset

namespace VariableTable

variable {T T' T'' : VariableTable} {name : String} {id : VarId}

def call (T : VariableTable) : TableCall → VariableTable
  | .declare name selected => (T.declare name selected).2
  | .getOrDeclare name => (T.getOrDeclare name).2
  | .bind id value => T.bind id value
  | .unbind id => T.unbind id
  | .reset => T.reset

def calls (T : VariableTable) (cs : List TableCall) : VariableTable := cs.foldl call T

def declared (T : VariableTable) : List String := T.entries.map (·.name)

/-- The parts of a table agree. -/
structure Consistent (T : VariableTable) : Prop extends Regular T where
  ids : ∀ id v, T.get? id = some v → v.id = id
  keys : T.byName.keys = T.declared
  distinct : T.declared.Nodup
  selected : ∀ id v, T.get? id = some v → (v.selected = true ↔ id.index < T.selectCount)

/-- The entries of a table are entries of another, up to their values. -/
def Keeps (T T' : VariableTable) : Prop :=
  ∀ id v, T.get? id = some v → ∃ value, T'.get? id = some { v with value := value }

theorem Keeps.refl (T : VariableTable) : T.Keeps T := by
  intro id v found
  exact ⟨v.value, found⟩

theorem Keeps.trans (h : T.Keeps T') (h' : T'.Keeps T'') : T.Keeps T'' := by
  intro id v found
  obtain ⟨value, found'⟩ := h id v found
  obtain ⟨value', found''⟩ := h' id _ found'
  exact ⟨value', found''⟩

/-! ## Values -/

theorem get?_setValue (T : VariableTable) (id : VarId) (value : Option Term) (other : VarId) :
    (T.setValue id value).get? other =
      (T.get? other).map fun v => if other = id then { v with value := value } else v := by
  obtain ⟨i⟩ := id
  obtain ⟨j⟩ := other
  unfold get? setValue
  rw [List.getElem?_modify]
  by_cases same : i = j
  · simp [same]
  · simp [same, Ne.symm same]

theorem setValue_foreign (foreign : T.size ≤ id.index) (value : Option Term) :
    T.setValue id value = T := by
  unfold setValue
  rw [List.modify_eq_self foreign]

theorem get?_reset (T : VariableTable) (id : VarId) :
    T.reset.get? id = (T.get? id).map fun v => { v with value := none } :=
  List.getElem?_map

theorem keeps_of_reset (same : T'.reset = T.reset) : T.Keeps T' := by
  intro id v found
  have blank : T'.reset.get? id = T.reset.get? id := congrArg (·.get? id) same
  rw [get?_reset, get?_reset, found, Option.map_some] at blank
  obtain ⟨w, found', same'⟩ := Option.map_eq_some_iff.mp blank
  refine ⟨w.value, ?_⟩
  obtain ⟨name, id', selected, value⟩ := v
  cases w
  cases same'
  exact found'

theorem Consistent.of_reset (h : T.Consistent) (same : T'.reset = T.reset) : T'.Consistent := by
  have forth := keeps_of_reset same
  have back := keeps_of_reset same.symm
  have byName : T'.byName = T.byName := by
    show T'.reset.byName = T.reset.byName
    rw [same]
  obtain ⟨size, count⟩ := size_of_reset_eq same
  have keys : T'.byName.keys = T'.declared := by
    have entries := congrArg (fun t : VariableTable => t.entries.map (·.name)) same
    rw [byName, h.keys]
    simpa [reset, VariableTable.declared, Function.comp_def] using entries.symm
  have find? : ∀ name, T'.find? name = T.find? name := by
    intro name
    rw [VariableTable.find?, byName, VariableTable.find?]
  refine ⟨⟨?_, ?_⟩, ?_, keys, keys ▸ T'.byName.distinct, ?_⟩
  · intro name id
    rw [find?, h.find?_iff]
    constructor
    · rintro ⟨v, found, named⟩
      obtain ⟨value, found'⟩ := forth id v found
      exact ⟨_, found', named⟩
    · rintro ⟨v, found, named⟩
      obtain ⟨value, found'⟩ := back id v found
      exact ⟨_, found', named⟩
  · rw [count, size]
    exact h.selectCount_le
  · intro id v found
    obtain ⟨value, found'⟩ := back id v found
    have own := h.ids id _ found'
    exact own
  · intro id v found
    obtain ⟨value, found'⟩ := back id v found
    have front := h.selected id _ found'
    rw [count]
    exact front

/-! ## A new entry -/

theorem Consistent.empty : VariableTable.empty.Consistent where
  toRegular := .empty
  ids := nofun
  keys := rfl
  distinct := .nil
  selected := nofun

theorem declared_push (T : VariableTable) (name : String) (selected : Bool) :
    (T.push name selected).declared = T.declared ++ [name] := by
  simp [declared, push]

theorem Consistent.mem_declared (h : T.Consistent) : name ∈ T.declared ↔ (T.find? name).isSome :=
  h.isSome_find?.symm

theorem Consistent.not_mem_declared (h : T.Consistent) :
    name ∉ T.declared ↔ T.find? name = none := by
  rw [h.mem_declared, Option.not_isSome_iff_eq_none]

theorem lt_size_of_get? {v : Variable} (found : T.get? id = some v) : id.index < T.size :=
  (List.getElem?_eq_some_iff.mp found).1

/-- A new name is added behind the entries that are there; a select variable if these are all
selected. -/
theorem Consistent.push (h : T.Consistent) (new : T.find? name = none) {selected : Bool}
    (front : selected = true → T.selectCount = T.size) : (T.push name selected).Consistent := by
  have absent : name ∉ T.declared := h.not_mem_declared.mpr new
  have keys : (T.push name selected).byName.keys = (T.push name selected).declared := by
    rw [declared_push, ← h.keys, ← insertNew_of_not_mem (h.keys.symm ▸ absent)]
    exact T.byName.keys_insert name _
  have distinct := (T.push name selected).byName.distinct
  refine ⟨h.toRegular.push new selected, ?_, keys, keys ▸ distinct, ?_⟩
  · intro id v found
    rw [get?_push] at found
    split at found
    · cases found
      rfl
    · exact h.ids id v found
  · intro id v found
    have le := h.selectCount_le
    rw [get?_push] at found
    split at found
    · next last =>
        cases found
        subst last
        cases selected with
        | true =>
            have full := front rfl
            simp [VariableTable.push, full]
        | false =>
            simp [VariableTable.push]
            omega
    · have inside := lt_size_of_get? found
      rw [h.selected id v found]
      cases selected with
      | true =>
          have full := front rfl
          simp [VariableTable.push]
          omega
      | false => simp [VariableTable.push]

theorem keeps_push (T : VariableTable) (name : String) (selected : Bool) :
    T.Keeps (T.push name selected) := by
  intro id v found
  have inside := lt_size_of_get? found
  have other : id ≠ ⟨T.size⟩ := by
    rintro rfl
    exact Nat.lt_irrefl _ inside
  exact ⟨v.value, by rw [get?_push, if_neg other, found]⟩

/-! ## Declarations -/

theorem Consistent.selectCount_eq (h : T.Consistent) :
    T.selectCount = T.size ↔ ∀ v ∈ T.entries, v.selected = true := by
  constructor
  · intro full v mem
    obtain ⟨i, inside, rfl⟩ := List.mem_iff_getElem.mp mem
    have found : T.get? ⟨i⟩ = some T.entries[i] := List.getElem?_eq_getElem inside
    rw [h.selected _ _ found, full]
    exact inside
  · intro all
    refine Nat.le_antisymm h.selectCount_le (Nat.le_of_not_lt fun less => ?_)
    -- the first entry behind the select variables would be selected
    have found : T.get? ⟨T.selectCount⟩ = some T.entries[T.selectCount] :=
      List.getElem?_eq_getElem less
    have selected := (h.selected _ _ found).mp (all _ (List.getElem_mem less))
    exact Nat.lt_irrefl _ selected

/-- A declaration is refused for a name that is there, and for a select variable behind an
internal one; otherwise the name gets the next place. -/
theorem Consistent.declare_cases (h : T.Consistent) (name : String) (selected : Bool) :
    (name ∈ T.declared ∧ T.declare name selected = (.error (.duplicateVariable name), T)) ∨
    (name ∉ T.declared ∧ (selected = true ∧ ∃ v ∈ T.entries, v.selected = false) ∧
      T.declare name selected = (.error (.duplicateVariable
        (name ++ " (select variable declared after internal variables)")), T)) ∨
    (name ∉ T.declared ∧ ¬ (selected = true ∧ ∃ v ∈ T.entries, v.selected = false) ∧
      T.declare name selected = (.ok ⟨T.size⟩, T.push name selected)) := by
  by_cases known : name ∈ T.declared
  · exact .inl ⟨known, by rw [declare, if_pos (h.mem_declared.mp known)]⟩
  have new : ¬ (T.find? name).isSome = true := mt h.mem_declared.mpr known
  have internal : (∃ v ∈ T.entries, v.selected = false) ↔ T.selectCount ≠ T.size := by
    rw [Ne, h.selectCount_eq]
    simp
  have late : (selected && T.selectCount != T.size) = true ↔
      (selected = true ∧ ∃ v ∈ T.entries, v.selected = false) := by
    rw [internal, Bool.and_eq_true, bne_iff_ne]
  by_cases behind : selected = true ∧ ∃ v ∈ T.entries, v.selected = false
  · exact .inr (.inl ⟨known, behind, by rw [declare, if_neg new, if_pos (late.mpr behind)]⟩)
  · exact .inr (.inr ⟨known, behind, by rw [declare, if_neg new, if_neg (mt late.mp behind)]⟩)

theorem Consistent.getOrDeclare_cases (h : T.Consistent) (name : String) :
    (name ∈ T.declared ∧ ∃ id, T.find? name = some id ∧ T.getOrDeclare name = (.ok id, T)) ∨
    (name ∉ T.declared ∧ T.getOrDeclare name = (.ok ⟨T.size⟩, T.push name false)) := by
  rw [getOrDeclare_eq, withName]
  by_cases known : name ∈ T.declared
  · have there := h.mem_declared.mp known
    obtain ⟨id, found⟩ := Option.isSome_iff_exists.mp there
    exact .inl ⟨known, id, found, by rw [if_pos there, found, Option.getD_some]⟩
  · have new : ¬ (T.find? name).isSome = true := mt h.mem_declared.mpr known
    exact .inr ⟨known, by rw [if_neg new, h.not_mem_declared.mp known, Option.getD_none]⟩

/-! ## One call, and calls in turn -/

theorem Consistent.call (h : T.Consistent) (c : TableCall) :
    (T.call c).Consistent ∧ T.Keeps (T.call c) := by
  cases c with
  | declare name selected =>
      show (T.declare name selected).2.Consistent ∧ T.Keeps (T.declare name selected).2
      rcases h.declare_cases name selected with ⟨-, refused⟩ | ⟨-, -, refused⟩ | ⟨new, front, made⟩
      · rw [refused]
        exact ⟨h, .refl T⟩
      · rw [refused]
        exact ⟨h, .refl T⟩
      · rw [made]
        refine ⟨h.push (h.not_mem_declared.mp new) ?_, T.keeps_push name selected⟩
        intro chosen
        rw [h.selectCount_eq]
        intro v mem
        cases flag : v.selected with
        | true => rfl
        | false => exact absurd ⟨chosen, v, mem, flag⟩ front
  | getOrDeclare name =>
      show (T.getOrDeclare name).2.Consistent ∧ T.Keeps (T.getOrDeclare name).2
      rcases h.getOrDeclare_cases name with ⟨-, id, -, found⟩ | ⟨new, made⟩
      · rw [found]
        exact ⟨h, .refl T⟩
      · rw [made]
        exact ⟨h.push (h.not_mem_declared.mp new) nofun, T.keeps_push name false⟩
  | bind id value =>
      have same := T.reset_setValue id (some value)
      exact ⟨h.of_reset same, keeps_of_reset same⟩
  | unbind id =>
      have same := T.reset_setValue id none
      exact ⟨h.of_reset same, keeps_of_reset same⟩
  | reset => exact ⟨h.of_reset T.reset_reset, keeps_of_reset T.reset_reset⟩

theorem Consistent.calls (h : T.Consistent) (cs : List TableCall) :
    (T.calls cs).Consistent ∧ T.Keeps (T.calls cs) := by
  induction cs generalizing T with
  | nil => exact ⟨h, .refl T⟩
  | cons c cs ih =>
      obtain ⟨consistent, keeps⟩ := h.call c
      obtain ⟨consistent', keeps'⟩ := ih consistent
      exact ⟨consistent', keeps.trans keeps'⟩

/-- A table is another one but for the value in a place, and is the same if there is no
variable. -/
structure Sets (T : VariableTable) (id : VarId) (value : Option Term) (T' : VariableTable) :
    Prop where
  entry : ∀ other, T'.get? other =
    (T.get? other).map fun v => if other = id then { v with value := value } else v
  byName : T'.byName = T.byName
  selectCount : T'.selectCount = T.selectCount
  foreign : T.size ≤ id.index → T' = T

theorem sets_setValue (T : VariableTable) (id : VarId) (value : Option Term) :
    T.Sets id value (T.setValue id value) where
  entry := T.get?_setValue id value
  byName := rfl
  selectCount := rfl
  foreign beyond := setValue_foreign beyond value

/-- **Whatever is called on a new table, its parts agree.**  The entries that are there keep
their places, names and flags for ever.  A declaration fails exactly for a name that is there
and for a select variable behind an internal one, and then changes nothing; otherwise it adds
an entry at the end.  To look for a name never fails.  Giving a value or taking it away changes
the value of that variable alone, and nothing at a place without one. -/
theorem calls_consistent (cs : List TableCall) :
    let T := VariableTable.empty.calls cs
    T.Consistent ∧ (∀ later, T.Keeps (T.calls later)) ∧
      (∀ name selected,
        ((∃ e, (T.declare name selected).1 = .error e) ↔
          name ∈ T.declared ∨ selected = true ∧ ∃ v ∈ T.entries, v.selected = false) ∧
        ((∃ e, (T.declare name selected).1 = .error e) → T.call (.declare name selected) = T) ∧
        ∀ id, (T.declare name selected).1 = .ok id →
          (T.call (.declare name selected)).entries =
            T.entries ++ [⟨name, id, selected, none⟩]) ∧
      (∀ name, ∃ id T', T.getOrDeclare name = (.ok id, T') ∧ T'.find? name = some id ∧
        (name ∈ T.declared → T' = T) ∧
        (name ∉ T.declared → T'.entries = T.entries ++ [⟨name, id, false, none⟩])) ∧
      (∀ id value, T.Sets id (some value) (T.bind id value)) ∧
      (∀ id, T.Sets id none (T.unbind id)) ∧
      ∀ id, T.reset.get? id = (T.get? id).map fun v => { v with value := none } := by
  intro T
  have consistent : T.Consistent := (Consistent.empty.calls cs).1
  refine ⟨consistent, fun later => (consistent.calls later).2, ?_, ?_, ?_, ?_, T.get?_reset⟩
  · intro name selected
    show ((∃ e, (T.declare name selected).1 = .error e) ↔ _) ∧
      ((∃ e, (T.declare name selected).1 = .error e) → (T.declare name selected).2 = T) ∧
      ∀ id, (T.declare name selected).1 = .ok id → (T.declare name selected).2.entries = _
    rcases consistent.declare_cases name selected with
      ⟨known, refused⟩ | ⟨-, late, refused⟩ | ⟨new, front, made⟩
    · rw [refused]
      exact ⟨⟨fun _ => .inl known, fun _ => ⟨_, rfl⟩⟩, fun _ => rfl, nofun⟩
    · rw [refused]
      exact ⟨⟨fun _ => .inr late, fun _ => ⟨_, rfl⟩⟩, fun _ => rfl, nofun⟩
    · rw [made]
      refine ⟨⟨?_, ?_⟩, ?_, ?_⟩
      · rintro ⟨e, failed⟩
        cases failed
      · rintro (known | late)
        · exact absurd known new
        · exact absurd late front
      · rintro ⟨e, failed⟩
        cases failed
      · intro id taken
        cases taken
        rfl
  · intro name
    rcases consistent.getOrDeclare_cases name with ⟨known, id, found, same⟩ | ⟨new, made⟩
    · exact ⟨id, T, same, found, fun _ => rfl, fun new => absurd known new⟩
    · refine ⟨⟨T.size⟩, T.push name false, made, ?_, fun known => absurd known new, fun _ => rfl⟩
      rw [find?_push, if_pos rfl]
  · intro id value
    exact T.sets_setValue id (some value)
  · intro id
    exact T.sets_setValue id none

end VariableTable

end GraphPattern
