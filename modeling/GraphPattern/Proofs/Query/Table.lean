/-
# Tables of variables

In a *regular* table the map of names leads to exactly the entries with these names.
Declaring a new name keeps a table regular, and a table only *grows* while names are
looked for: its entries stay where they are, names are found where they were, and the
select variables are the same.
-/
import GraphPattern.Proofs.OrderedMap
import GraphPattern.Query.Assignment

namespace GraphPattern.VariableTable

/-- A name is found at a place exactly if the variable there has it, and the select
variables are among the entries. -/
structure Regular (T : VariableTable) : Prop where
  find?_iff : ∀ name id, T.find? name = some id ↔ ∃ v, T.get? id = some v ∧ v.name = name
  selectCount_le : T.selectCount ≤ T.size

/-- A table has become another by adding variables that are not selected. -/
structure Grows (T T' : VariableTable) : Prop where
  entries : ∃ more, T'.entries = T.entries ++ more
  selectCount : T'.selectCount = T.selectCount
  find? : ∀ {name id}, T.find? name = some id → T'.find? name = some id

variable {T T' T'' : VariableTable} {name other : String} {id : VarId}

theorem Grows.refl (T : VariableTable) : T.Grows T := ⟨⟨[], by simp⟩, rfl, id⟩

theorem Grows.trans (h : T.Grows T') (h' : T'.Grows T'') : T.Grows T'' := by
  obtain ⟨more, e⟩ := h.entries
  obtain ⟨more', e'⟩ := h'.entries
  refine ⟨⟨more ++ more', ?_⟩, h'.selectCount.trans h.selectCount, fun hf => h'.find? (h.find? hf)⟩
  rw [e', e, List.append_assoc]

theorem Grows.selected (h : T.Grows T') (le : T.selectCount ≤ T.size) :
    T'.selected = T.selected := by
  obtain ⟨more, e⟩ := h.entries
  rw [VariableTable.selected, VariableTable.selected, h.selectCount, e,
    List.take_append_of_le_length le]

/-! ## Names and places -/

theorem Regular.lt_size (h : T.Regular) (hf : T.find? name = some id) : id.index < T.size := by
  obtain ⟨v, hv, -⟩ := (h.find?_iff name id).mp hf
  exact (List.getElem?_eq_some_iff.mp hv).1

theorem Regular.find?_inj (h : T.Regular) (hf : T.find? name = some id)
    (hf' : T.find? other = some id) : name = other := by
  obtain ⟨v, hv, rfl⟩ := (h.find?_iff name id).mp hf
  obtain ⟨w, hw, rfl⟩ := (h.find?_iff other id).mp hf'
  rw [hv] at hw
  cases hw
  rfl

theorem Regular.isSome_find? (h : T.Regular) :
    (T.find? name).isSome ↔ name ∈ T.entries.map (·.name) := by
  constructor
  · intro some
    obtain ⟨id, hf⟩ := Option.isSome_iff_exists.mp some
    obtain ⟨v, hv, rfl⟩ := (h.find?_iff name id).mp hf
    exact List.mem_map_of_mem (List.mem_of_getElem? hv)
  · intro mem
    obtain ⟨v, hv, rfl⟩ := List.mem_map.mp mem
    obtain ⟨i, hi, rfl⟩ := List.mem_iff_getElem.mp hv
    have found := (h.find?_iff T.entries[i].name ⟨i⟩).mpr
      ⟨_, List.getElem?_eq_getElem hi, rfl⟩
    rw [found]
    rfl

/-! ## Declaring -/

theorem Regular.empty : VariableTable.empty.Regular :=
  ⟨fun _ _ => ⟨fun h => (nomatch h), fun ⟨_, hv, _⟩ => nomatch hv⟩, Nat.le_refl 0⟩

theorem find?_push (T : VariableTable) (name other : String) (selected : Bool) :
    (T.push name selected).find? other = if name = other then some ⟨T.size⟩ else T.find? other :=
  OrderedMap.get?_insert T.byName name other ⟨T.size⟩

theorem get?_push (T : VariableTable) (name : String) (selected : Bool) (id : VarId) :
    (T.push name selected).get? id =
      if id = ⟨T.size⟩ then some ⟨name, id, selected, none⟩ else T.get? id := by
  unfold VariableTable.get? push size
  dsimp only
  rw [List.getElem?_append]
  by_cases same : id = ⟨T.entries.length⟩
  · simp [same]
  · have apart : id.index ≠ T.entries.length := fun e => same (e ▸ rfl)
    rw [if_neg same]
    split
    · rfl
    · have beyond : T.entries.length < id.index := by omega
      rw [List.getElem?_eq_none (by simp; omega), List.getElem?_eq_none (by omega)]

theorem Regular.push (h : T.Regular) (new : T.find? name = none) (selected : Bool) :
    (T.push name selected).Regular where
  find?_iff other id := by
    rw [find?_push, get?_push]
    by_cases hn : name = other
    · subst hn
      rw [if_pos rfl]
      constructor
      · intro same
        cases same
        exact ⟨_, if_pos rfl, rfl⟩
      · rintro ⟨v, hv, named⟩
        split at hv
        · next place => rw [place]
        · have := (h.find?_iff name id).mpr ⟨v, hv, named⟩
          rw [new] at this
          cases this
    · rw [if_neg hn, h.find?_iff]
      constructor
      · rintro ⟨v, hv, named⟩
        have inside : id.index < T.size := (List.getElem?_eq_some_iff.mp hv).1
        have apart : id ≠ ⟨T.size⟩ := by
          rintro rfl
          exact Nat.lt_irrefl _ inside
        exact ⟨v, by rw [if_neg apart, hv], named⟩
      · rintro ⟨v, hv, named⟩
        split at hv
        · cases hv
          exact absurd named hn
        · exact ⟨v, hv, named⟩
  selectCount_le := by
    have le := h.selectCount_le
    unfold size at le ⊢
    unfold VariableTable.push
    dsimp only
    rw [List.length_append]
    split
    · exact Nat.succ_le_succ le
    · exact Nat.le_succ_of_le le

theorem Grows.push (new : T.find? name = none) : T.Grows (T.push name false) where
  entries := ⟨_, rfl⟩
  selectCount := rfl
  find? {other id} hf := by
    rw [find?_push, if_neg, hf]
    rintro rfl
    rw [new] at hf
    cases hf

/-- The table once a name has been looked for, or declared. -/
def withName (T : VariableTable) (name : String) : VariableTable :=
  if (T.find? name).isSome then T else T.push name false

theorem getOrDeclare_eq (T : VariableTable) (name : String) :
    T.getOrDeclare name = (.ok ((T.find? name).getD ⟨T.size⟩), T.withName name) := by
  rw [VariableTable.getOrDeclare, withName]
  cases found : T.find? name with
  | some id => rfl
  | none => simp [declare, found]

theorem Regular.getOrDeclare (h : T.Regular) (name : String) :
    ∃ id T', T.getOrDeclare name = (.ok id, T') ∧ T'.Regular ∧ T.Grows T' ∧
      T'.find? name = some id := by
  rw [getOrDeclare_eq, withName]
  cases hf : T.find? name with
  | some id => exact ⟨id, T, rfl, h, .refl T, hf⟩
  | none =>
      refine ⟨⟨T.size⟩, T.push name false, rfl, h.push hf false, .push hf, ?_⟩
      rw [find?_push, if_pos rfl]

/-! ## Tables by their names -/

/-- The entries for some names: each has its place for its id, and the first `k` of them are
selected. -/
def entriesOf (k : Nat) (names : List String) : List Variable :=
  names.mapIdx fun i name => ⟨name, ⟨i⟩, decide (i < k), none⟩

theorem entriesOf_concat (k : Nat) (names : List String) (name : String) :
    entriesOf k (names ++ [name]) =
      entriesOf k names ++ [⟨name, ⟨names.length⟩, decide (names.length < k), none⟩] := by
  simp [entriesOf, List.mapIdx_append]

/-- A table has the entries for some names, and finds each of them at its place. -/
structure Numbers (T : VariableTable) (k : Nat) (names : List String) : Prop where
  entries : T.entries = entriesOf k names
  selectCount : T.selectCount = k
  selectCount_le : k ≤ names.length
  find? : ∀ name, T.find? name = if name ∈ names then some ⟨names.idxOf name⟩ else none

theorem Numbers.empty : VariableTable.empty.Numbers 0 [] := ⟨rfl, rfl, Nat.le_refl 0, fun _ => rfl⟩

section Numbers

variable {k : Nat} {names : List String}

theorem Numbers.size (h : T.Numbers k names) : T.size = names.length := by
  rw [VariableTable.size, h.entries, entriesOf, List.length_mapIdx]

theorem Numbers.isSome_find? (h : T.Numbers k names) : (T.find? name).isSome ↔ name ∈ names := by
  rw [h.find?]
  split <;> simp [*]

theorem Numbers.find?_eq_none (h : T.Numbers k names) : T.find? name = none ↔ name ∉ names := by
  rw [h.find?]
  split <;> simp [*]

theorem Numbers.get?_idxOf (h : T.Numbers k names) (mem : name ∈ names) :
    T.get? ⟨names.idxOf name⟩ =
      some ⟨name, ⟨names.idxOf name⟩, decide (names.idxOf name < k), none⟩ := by
  have there : names[names.idxOf name]? = some name :=
    List.getElem?_eq_some_iff.mpr ⟨List.idxOf_lt_length_of_mem mem, List.getElem_idxOf _⟩
  rw [VariableTable.get?, h.entries, entriesOf, List.getElem?_mapIdx, there]
  rfl

theorem Numbers.find?_push (h : T.Numbers k names) (new : name ∉ names) (selected : Bool)
    (other : String) :
    (T.push name selected).find? other =
      if other ∈ names ++ [name] then some ⟨(names ++ [name]).idxOf other⟩ else none := by
  rw [VariableTable.find?_push, h.find?, h.size]
  by_cases same : name = other
  · subst same
    simp [List.idxOf_append, new]
  · by_cases old : other ∈ names
    · simp [same, old, List.idxOf_append]
    · simp [same, old, Ne.symm same]

theorem Numbers.push_selected (h : T.Numbers names.length names) (new : name ∉ names) :
    (T.push name true).Numbers (names ++ [name]).length (names ++ [name]) where
  entries := by
    have front : entriesOf (names.length + 1) names = entriesOf names.length names := by
      refine List.mapIdx_eq_mapIdx_iff.mpr fun i lt => ?_
      simp [lt, Nat.lt_succ_of_lt lt]
    rw [VariableTable.push, h.entries, h.size, List.length_append, List.length_singleton,
      entriesOf_concat, front]
    simp
  selectCount := by simp [VariableTable.push, h.selectCount]
  selectCount_le := Nat.le_refl _
  find? := h.find?_push new true

theorem Numbers.push_internal (h : T.Numbers k names) (new : name ∉ names) :
    (T.push name false).Numbers k (names ++ [name]) where
  entries := by
    rw [VariableTable.push, h.entries, h.size, entriesOf_concat]
    simp [h.selectCount_le]
  selectCount := h.selectCount
  selectCount_le := Nat.le_trans h.selectCount_le (by simp)
  find? := h.find?_push new false

theorem Numbers.withName (h : T.Numbers k names) (name : String) :
    (T.withName name).Numbers k (insertNew names name) := by
  by_cases old : name ∈ names
  · rwa [VariableTable.withName, if_pos (h.isSome_find?.mpr old), insertNew, if_pos old]
  · rw [VariableTable.withName, if_neg (mt h.isSome_find?.mp old), insertNew_of_not_mem old]
    exact h.push_internal old

/-- Looking for names in turn, or declaring them, adds those that are new. -/
theorem Numbers.withNames (h : T.Numbers k names) (more : List String) :
    (more.foldl VariableTable.withName T).Numbers k (more.foldl insertNew names) := by
  induction more generalizing T names with
  | nil => exact h
  | cons name more ih => exact ih (h.withName name)

end Numbers

/-! ## Select variables -/

/-- The select variables of a list: its names, each once, in the order in which they
first occur. -/
def columnsOf (names : List String) : List String := names.foldl insertNew []

section Select

variable {s s' : Assignment.Selection}

theorem select_of_known (known : (s.table.find? name).isSome) (names : List String) :
    Assignment.select s (name :: names) =
      Assignment.select { s with duplicates := s.duplicates ++ [name] } names := by
  rw [Assignment.select, if_pos known]

theorem select_of_new (new : s.table.find? name = none)
    (full : s.table.selectCount = s.table.size) (names : List String) :
    Assignment.select s (name :: names) =
      Assignment.select { s with table := s.table.push name true } names := by
  have declared : s.table.declare name true = (.ok ⟨s.table.size⟩, s.table.push name true) := by
    simp [declare, new, full]
  rw [Assignment.select, if_neg (by simp [new]), declared]

theorem select_cons_ok {names : List String}
    (ok : Assignment.select s (name :: names) = .ok s') :
    ((s.table.find? name).isSome ∧
      Assignment.select { s with duplicates := s.duplicates ++ [name] } names = .ok s') ∨
    (s.table.find? name = none ∧
      Assignment.select { s with table := s.table.push name true } names = .ok s') := by
  by_cases known : (s.table.find? name).isSome
  · exact .inl ⟨known, select_of_known known names ▸ ok⟩
  · have new : s.table.find? name = none := by simpa using known
    by_cases full : s.table.selectCount = s.table.size
    · exact .inr ⟨new, select_of_new new full names ▸ ok⟩
    · rw [Assignment.select, if_neg known] at ok
      simp [declare, new, full] at ok

/-- Selecting never fails: the select variables are the names behind those that were
there, each once. -/
theorem select_eq_ok (names : List String) (h : s.table.Regular)
    (full : s.table.selectCount = s.table.size) :
    ∃ s', Assignment.select s names = .ok s' ∧ s'.table.Regular ∧
      s'.table.selectCount = s'.table.size ∧
      s'.table.entries.map (·.name) = names.foldl insertNew (s.table.entries.map (·.name)) := by
  induction names generalizing s with
  | nil => exact ⟨s, rfl, h, full, rfl⟩
  | cons name names ih =>
      by_cases known : (s.table.find? name).isSome
      · rw [select_of_known known, List.foldl_cons, insertNew, if_pos (h.isSome_find?.mp known)]
        exact ih (s := { s with duplicates := s.duplicates ++ [name] }) h full
      · have new : s.table.find? name = none := by simpa using known
        have full' : (s.table.push name true).selectCount = (s.table.push name true).size := by
          have counts : s.table.selectCount = s.table.entries.length := full
          simp [VariableTable.push, VariableTable.size, counts]
        obtain ⟨s', ok, regular, full'', columns⟩ :=
          ih (s := { s with table := s.table.push name true }) (h.push new true) full'
        have absent : name ∉ s.table.entries.map (·.name) :=
          fun mem => known (h.isSome_find?.mpr mem)
        refine ⟨s', (select_of_new new full names).trans ok, regular, full'', ?_⟩
        rw [columns, List.foldl_cons, insertNew_of_not_mem absent]
        simp [VariableTable.push]

theorem Numbers.select {kept : List String} (h : s.table.Numbers kept.length kept)
    (names : List String) (ok : Assignment.select s names = .ok s') :
    s'.table.Numbers (names.foldl insertNew kept).length (names.foldl insertNew kept) := by
  induction names generalizing s kept with
  | nil =>
      cases ok
      exact h
  | cons name names ih =>
      rw [List.foldl_cons]
      rcases select_cons_ok ok with ⟨known, rest⟩ | ⟨new, rest⟩
      · rw [insertNew, if_pos (h.isSome_find?.mp known)]
        exact ih (s := { s with duplicates := s.duplicates ++ [name] }) h rest
      · have absent : name ∉ kept := h.find?_eq_none.mp new
        rw [insertNew_of_not_mem absent]
        exact ih (s := { s with table := s.table.push name true }) (h.push_selected absent) rest

end Select

end GraphPattern.VariableTable
