/-
# Names and their places

A regular table relates values for names to substitutions, which are values for places:
`names` and `places` lead from one to the other and back.  A slot in place of a name stands
for what the name does, and the row of a substitution is the row of the select names.
-/
import GraphPattern.Proofs.Join.Matching
import GraphPattern.Proofs.Query.Assignment

namespace GraphPattern

abbrev Valuation := String → Option Term

/-- The row of some names under values for them. -/
def Solution.ofNames (columns : List String) (ρ : Valuation) : Solution :=
  columns.foldl (fun s name => s.push name (ρ name)) .empty

namespace Solution

theorem getBinding_foldl_push (columns : List String) (ρ : Valuation) (s : Solution) (x : String) :
    (columns.foldl (fun s name => s.push name (ρ name)) s).bindings.get? x =
      if x ∈ columns then some (ρ x) else s.bindings.get? x := by
  induction columns generalizing s with
  | nil => simp
  | cons name columns ih =>
      rw [List.foldl_cons, ih, push, OrderedMap.get?_insert]
      by_cases same : name = x
      · simp [same]
      · simp [same, Ne.symm same]

theorem get?_ofNames {columns : List String} {x : String} (h : x ∈ columns) (ρ : Valuation) :
    (ofNames columns ρ).get? x = ρ x := by
  rw [get?, ofNames, getBinding_foldl_push, if_pos h]
  rfl

theorem names_ofNames (columns : List String) (ρ : Valuation) :
    (ofNames columns ρ).names = VariableTable.columnsOf columns := by
  have pushed : ∀ s : Solution,
      (columns.foldl (fun s name => s.push name (ρ name)) s).names =
        columns.foldl insertNew s.names := by
    induction columns with
    | nil => exact fun _ => rfl
    | cons name columns ih =>
        intro s
        have first : (s.push name (ρ name)).names = insertNew s.names name :=
          s.bindings.keys_insert name (ρ name)
        rw [List.foldl_cons, ih, List.foldl_cons, first]
  exact pushed .empty

end Solution

namespace PatternTerm

/-- What a term of a query stands for under values for names. -/
def denotes (ρ : Valuation) : PatternTerm → Option Term
  | term t => some t
  | named name => ρ name
  | _ => none

/-- A term, or a variable by its name. -/
inductive Plain : PatternTerm → Prop where
  | term (t : Term) : Plain (.term t)
  | named (name : String) : Plain (.named name)

end PatternTerm

namespace VariableTable

variable {T : VariableTable} {σ : Substitution} {ρ : Valuation} {t : PatternTerm} {id : VarId}
  {name : String}

/-! ## Values by names and by places -/

/-- The values for names that a substitution gives by their places. -/
def names (T : VariableTable) (σ : Substitution) : Valuation := fun name => (T.find? name).bind σ

/-- The substitution that values for names give by their places. -/
def places (T : VariableTable) (ρ : Valuation) : Substitution :=
  fun id => (T.get? id).bind fun v => ρ v.name

theorem names_of_find? (h : T.find? name = some id) (σ : Substitution) :
    T.names σ name = σ id := by
  rw [names, h]
  rfl

theorem Regular.places_of_find? (regular : T.Regular) (h : T.find? name = some id)
    (ρ : Valuation) : T.places ρ id = ρ name := by
  obtain ⟨v, hv, rfl⟩ := (regular.find?_iff name id).mp h
  rw [places, hv]
  rfl

theorem Regular.names_places (regular : T.Regular)
    (known : ∀ name, (ρ name).isSome → (T.find? name).isSome) : T.names (T.places ρ) = ρ := by
  funext name
  cases found : T.find? name with
  | some id => rw [names_of_find? found, regular.places_of_find? found]
  | none =>
      have unknown : T.names (T.places ρ) name = none := by
        rw [names, found]
        rfl
      rw [unknown]
      cases value : ρ name with
      | none => rfl
      | some u =>
          have := known name (by rw [value]; rfl)
          rw [found] at this
          cases this

/-- Every place with a value is the place of a name. -/
def Supports (T : VariableTable) (σ : Substitution) : Prop :=
  ∀ id, (σ id).isSome → ∃ name, T.find? name = some id

theorem Regular.places_names (regular : T.Regular) (supported : T.Supports σ) :
    T.places (T.names σ) = σ := by
  funext id
  cases there : T.get? id with
  | some v =>
      have found := (regular.find?_iff v.name id).mpr ⟨v, there, rfl⟩
      rw [regular.places_of_find? found, names_of_find? found]
  | none =>
      have away : T.places (T.names σ) id = none := by
        rw [places, there]
        rfl
      rw [away]
      cases value : σ id with
      | none => rfl
      | some u =>
          obtain ⟨name, found⟩ := supported id (by rw [value]; rfl)
          obtain ⟨v, hv, -⟩ := (regular.find?_iff name id).mp found
          rw [there] at hv
          cases hv

theorem Regular.supports_places (regular : T.Regular) (ρ : Valuation) :
    T.Supports (T.places ρ) := by
  intro id value
  cases there : T.get? id with
  | some v => exact ⟨v.name, (regular.find?_iff v.name id).mpr ⟨v, there, rfl⟩⟩
  | none =>
      rw [places, there] at value
      cases value

/-- Variables that were added have no value under a substitution for those before. -/
theorem Grows.names_eq {T' : VariableTable} (grows : T.Grows T') (regular' : T'.Regular)
    (supported : T.Supports σ) : T'.names σ = T.names σ := by
  funext name
  cases found : T.find? name with
  | some id => rw [names_of_find? found, names_of_find? (grows.find? found)]
  | none =>
      have unknown : T.names σ name = none := by
        rw [names, found]
        rfl
      rw [unknown]
      cases found' : T'.find? name with
      | none =>
          rw [names, found']
          rfl
      | some id =>
          rw [names_of_find? found']
          refine Option.not_isSome_iff_eq_none.mp fun value => ?_
          obtain ⟨other, old⟩ := supported id value
          have same : other = name := regular'.find?_inj (grows.find? old) found'
          rw [same, found] at old
          cases old

/-! ## Slots in place of names -/

theorem under_slotted (plain : t.Plain) (covers : T.Covers t) (σ : Substitution) :
    (T.slotted t).under σ = t.denotes (T.names σ) := by
  cases plain with
  | term u => rfl
  | named name =>
      obtain ⟨id, found⟩ := Option.isSome_iff_exists.mp (covers name rfl)
      rw [slotted_named found]
      exact (names_of_find? found σ).symm

theorem within_slotted (regular : T.Regular) (plain : t.Plain) (covers : T.Covers t) :
    (T.slotted t).Within T.size := by
  cases plain with
  | term u => exact trivial
  | named name =>
      obtain ⟨id, found⟩ := Option.isSome_iff_exists.mp (covers name rfl)
      rw [slotted_named found]
      exact regular.lt_size found

theorem slotted_eq_slot (plain : t.Plain) (h : T.slotted t = .slot id) :
    ∃ name, t = .named name ∧ T.find? name = some id := by
  cases plain with
  | term u => cases h
  | named name =>
      cases found : T.find? name with
      | none => simp [slotted, found] at h
      | some id' =>
          rw [slotted_named found] at h
          cases h
          exact ⟨name, rfl, found⟩

/-! ## Rows -/

theorem Regular.row_eq (regular : T.Regular) (σ : Substitution) :
    T.row σ = .ofNames (T.selected.map (·.name)) (T.names σ) := by
  have cells : T.selected.zipIdx.map (fun entry => (entry.1.name, σ ⟨entry.2⟩)) =
      T.selected.map fun v => (v.name, T.names σ v.name) := by
    refine List.ext_getElem? fun i => ?_
    simp only [List.getElem?_map, List.getElem?_zipIdx, Nat.zero_add]
    cases there : T.selected[i]? with
    | none => rfl
    | some v =>
        have entry : T.get? ⟨i⟩ = some v := by
          simp only [VariableTable.selected, List.getElem?_take] at there
          split at there
          · exact there
          · cases there
        have found := (regular.find?_iff v.name ⟨i⟩).mpr ⟨v, entry, rfl⟩
        simp only [Option.map_some, names_of_find? found]
  have left : T.row σ = (T.selected.zipIdx.map fun entry => (entry.1.name, σ ⟨entry.2⟩)).foldl
      (fun s cell => s.push cell.1 cell.2) .empty := by
    rw [List.foldl_map]
    rfl
  rw [left, cells, List.foldl_map, Solution.ofNames, List.foldl_map]

end VariableTable

end GraphPattern
