/-
# Tables as substitutions

The values in a variable table are a substitution: a value, or none, for each place.
`VariableTable.assign` puts a substitution into a table and leaves the variables
themselves as they are, so that a table under way is its first form under a
substitution, and giving or taking a value is a change of the substitution.
-/
import GraphPattern.Join.Solution
import GraphPattern.Join.View

namespace GraphPattern

abbrev Substitution := VarId → Option Term

namespace Substitution

def empty : Substitution := fun _ => none

def set (σ : Substitution) (id : VarId) (value : Option Term) : Substitution :=
  fun other => if other = id then value else σ other

theorem set_self (σ : Substitution) (id : VarId) (value : Option Term) :
    σ.set id value id = value := if_pos rfl

theorem set_ne (σ : Substitution) {id other : VarId} (h : other ≠ id) (value : Option Term) :
    σ.set id value other = σ other := if_neg h

/-- A substitution that has all the values of another. -/
def Extends (τ σ : Substitution) : Prop := ∀ id t, σ id = some t → τ id = some t

theorem Extends.refl (σ : Substitution) : σ.Extends σ := fun _ _ h => h

theorem Extends.trans {σ τ υ : Substitution} (h : υ.Extends τ) (h' : τ.Extends σ) :
    υ.Extends σ := fun id t ht => h id t (h' id t ht)

theorem Extends.set {σ : Substitution} {id : VarId} (new : σ id = none) (t : Term) :
    (σ.set id (some t)).Extends σ := by
  intro other u hu
  rw [set_ne σ _ (some t)]
  · exact hu
  · intro same
    rw [same, new] at hu
    cases hu

end Substitution

namespace VariableTable

/-- The table with the values of a substitution. -/
def assign (table : VariableTable) (σ : Substitution) : VariableTable :=
  { table with entries := table.entries.mapIdx fun i v => { v with value := σ ⟨i⟩ } }

/-- The row of the select variables under a substitution, in select order. -/
def row (table : VariableTable) (σ : Substitution) : Solution :=
  table.selected.zipIdx.foldl (fun s entry => s.push entry.1.name (σ ⟨entry.2⟩)) .empty

variable (table : VariableTable) (σ τ : Substitution)

theorem reset_eq_assign : table.reset = table.assign .empty := by
  unfold reset assign
  congr 1
  exact List.ext_getElem (by simp) (by simp [Substitution.empty])

theorem value_assign {id : VarId} (h : id.index < table.size) :
    (table.assign σ).value id = σ id := by
  unfold size at h
  simp [value, get?, assign, List.getElem?_eq_getElem h]

theorem setValue_assign (id : VarId) (value : Option Term) :
    (table.assign σ).setValue id value = table.assign (σ.set id value) := by
  unfold setValue assign
  congr 1
  refine List.ext_getElem? fun i => ?_
  simp only [List.getElem?_modify, List.getElem?_mapIdx]
  cases table.entries[i]? with
  | none => simp
  | some v =>
      by_cases h : id.index = i
      · subst h
        simp [Substitution.set]
      · have : (⟨i⟩ : VarId) ≠ id := fun e => h (e ▸ rfl)
        simp [h, Substitution.set, this]

theorem bind_assign (id : VarId) (t : Term) :
    (table.assign σ).bind id t = table.assign (σ.set id (some t)) :=
  table.setValue_assign σ id (some t)

theorem unbind_assign (id : VarId) :
    (table.assign σ).unbind id = table.assign (σ.set id none) :=
  table.setValue_assign σ id none

theorem ofTable_assign : Solution.ofTable (table.assign σ) = table.row σ := by
  have selected : (table.assign σ).selected =
      table.selected.zipIdx.map fun entry => { entry.1 with value := σ ⟨entry.2⟩ } := by
    unfold VariableTable.selected assign
    refine List.ext_getElem? fun i => ?_
    simp only [List.getElem?_take, List.getElem?_mapIdx, List.getElem?_map,
      List.getElem?_zipIdx]
    by_cases h : i < table.selectCount
    · cases table.entries[i]? <;> simp [h]
    · simp [h]
  rw [Solution.ofTable, selected, List.foldl_map]
  rfl

/-! ## Variables apart from their values -/

theorem reset_reset : table.reset.reset = table.reset := by
  simp [reset]

theorem reset_setValue (id : VarId) (value : Option Term) :
    (table.setValue id value).reset = table.reset := by
  unfold setValue reset
  congr 1
  refine List.ext_getElem? fun i => ?_
  simp only [List.getElem?_map, List.getElem?_modify]
  cases table.entries[i]? with
  | none => rfl
  | some v => by_cases h : id.index = i <;> simp [h]

theorem reset_unify (t : Triple) (binders : List Binder) (table : VariableTable) :
    (unify t binders table).2.reset = table.reset := by
  induction binders generalizing table with
  | nil => rfl
  | cons d binders ih =>
      unfold unify
      split
      · split
        · exact ih table
        · rfl
      · rw [ih]
        exact table.reset_setValue d.id _

theorem reset_release (binders : List Binder) (table : VariableTable) :
    (table.release binders).reset = table.reset := by
  induction binders generalizing table with
  | nil => rfl
  | cons d binders ih => exact (ih _).trans (table.reset_setValue d.id none)

theorem size_of_reset_eq {table other : VariableTable} (h : table.reset = other.reset) :
    table.size = other.size ∧ table.selectCount = other.selectCount := by
  have entries := congrArg (fun t : VariableTable => t.entries.length) h
  have selected := congrArg VariableTable.selectCount h
  exact ⟨by simpa [reset, size] using entries, selected⟩

theorem assign_reset (table : VariableTable) (σ : Substitution) :
    table.reset.assign σ = table.assign σ := by
  unfold assign reset
  congr 1
  exact List.ext_getElem (by simp) (by simp)

theorem assign_self (table : VariableTable) : table.assign table.value = table := by
  unfold assign
  congr 1
  refine List.ext_getElem (by simp) fun i inside inside' => ?_
  simp [value, get?, List.getElem?_eq_getElem inside']

/-- A table is each that declares the same variables, under its own values. -/
theorem assign_value {table other : VariableTable} (h : other.reset = table.reset) :
    table.assign other.value = other := by
  rw [← assign_reset, ← h, assign_reset, assign_self]

theorem value_of_reset_eq {table : VariableTable} (h : table.reset = table) {v : Variable}
    (mem : v ∈ table.entries) : v.value = none := by
  rw [← h] at mem
  obtain ⟨u, -, rfl⟩ := List.mem_map.mp mem
  rfl

end VariableTable

end GraphPattern
