/-
# A variable with a value is a constant

Replacing a slot by the term that it is bound to leaves the value of an expression as it
is (`slot_as_constant`), although slots and constants go different ways: a constant pattern
is kept by the evaluator and the pattern in a slot is not, and a function takes the term of
either without a look at its value.  The one exception is a slot that is itself the
argument of `bound`, which fails for a constant.  And an evaluation reads nothing of a
table but the values of the slots in its expression (`eval_congr`).
-/
import GraphPattern.Proofs.Constraint.Agreement
import GraphPattern.Proofs.Query.Traversal

namespace GraphPattern

/-- Puts a term in the place of a slot. -/
def PatternTerm.fill (x : VarId) (t : Term) : PatternTerm → PatternTerm
  | .slot id => if id = x then .term t else .slot id
  | u => u

namespace Expression

open Evaluation

/-! ## The slots of an expression are all that is read -/

section Congruence

variable {T T' : VariableTable}

/-- Two tables have the same values in the slots among some leaves. -/
def SameSlots (T T' : VariableTable) (ts : List PatternTerm) : Prop :=
  ∀ id, .slot id ∈ ts → T.value id = T'.value id

theorem SameSlots.mono {ts us : List PatternTerm} (h : SameSlots T T' us) (sub : ts ⊆ us) :
    SameSlots T T' ts := by
  intro id mem
  exact h id (sub mem)

theorem leafValue_congr {t : PatternTerm} (h : SameSlots T T' [t]) :
    leafValue T t = leafValue T' t := by
  cases t with
  | slot id => simp only [leafValue, h id (List.mem_singleton_self _)]
  | _ => rfl

theorem callOne_congr (name : String) {arg : Expression} (h : SameSlots T T' arg.leaves)
    (value : Evaluation Value) : callOne T name arg value = callOne T' name arg value := by
  cases arg with
  | leaf t =>
      cases t with
      | slot id => simp only [callOne, applyBound, argumentTerm, h id (List.mem_singleton_self _)]
      | _ => rfl
  | _ => rfl

/-- **An evaluation depends on the slots of its expression alone.** -/
theorem eval_congr : ∀ e : Expression, SameSlots T T' e.leaves → e.eval T = e.eval T'
  | leaf t, h => congrArg (fun r => (liftM r : Evaluation Value)) (leafValue_congr h)
  | binary op l r, h => by
      have hl := eval_congr l (h.mono (List.subset_append_left _ _))
      have hr := eval_congr r (h.mono (List.subset_append_right _ _))
      cases op <;> simp only [eval, hl, hr]
  | unary op e, h => by simp only [eval, eval_congr e h]
  | call name [], _ => rfl
  | call name [arg], h => by
      have harg : SameSlots T T' arg.leaves := h.mono (List.subset_append_left _ _)
      simp only [eval, evalArgs, callFunction, eval_congr arg harg, callOne_congr _ harg]
  | call name (_ :: _ :: _), _ => rfl

theorem holds_congr {e : Expression} (h : SameSlots T T' e.leaves) : e.holds T = e.holds T' := by
  unfold holds
  rw [eval_congr e h]

end Congruence

/-! ## A slot with a value -/

section Fill

variable {T : VariableTable} {x : VarId} {t : Term}

/-- A slot with a value and the constant for it are the same leaf. -/
theorem leavesAlike_fill (bound : T.value x = some t) (u : PatternTerm) :
    LeavesAlike T T u (u.fill x t) := by
  cases u with
  | slot id =>
      by_cases same : id = x
      · subst same
        rw [PatternTerm.fill, if_pos rfl]
        constructor
        · simp only [leafValue, bound]
          exact .refl _
        · simp only [argument, bound]
          exact .refl _
      · rw [PatternTerm.fill, if_neg same]
        exact ⟨.refl _, .refl _⟩
  | _ => exact ⟨.refl _, .refl _⟩

theorem fill_of_ne {u : PatternTerm} (h : u ≠ .slot x) : u.fill x t = u := by
  cases u with
  | slot id =>
      have other : id ≠ x := by
        rintro rfl
        exact h rfl
      exact if_neg other
  | _ => rfl

theorem value_fill (bound : T.value x = some t) {e : Expression} (direct : .slot x ∉ e.asked) :
    AgreeUpToError (e.value T) ((e.map (PatternTerm.fill x t)).value T) := by
  -- what `bound` is asked about is another slot or no slot, and is left as it is
  have asked : ∀ u ∈ e.asked, BoundAlike T T u (u.fill x t) := by
    intro u mem
    have other : u ≠ .slot x := by
      rintro rfl
      exact direct mem
    rw [fill_of_ne other]
    exact .refl _
  have alike := value_alike (f := fun u => u) e (fun u _ => leavesAlike_fill bound u) asked
  rwa [map_eq_graft, graft_leaves] at alike

/-- **A variable with a value is as good as the constant.**  Where no `bound` has the slot
for its argument, the expression with the term of the slot in its place has the same value,
or both have none, and holds if it does.  Nothing is read of the table but the values of the
slots that occur. -/
theorem slot_as_constant (e : Expression) :
    (∀ (T : VariableTable) (x : VarId) (t : Term), T.value x = some t → .slot x ∉ e.asked →
      ∀ cache cache' : RegexCache, cache.Reached → cache'.Reached →
        AgreeUpToError ((e.eval T).run cache).1
          (((e.map (PatternTerm.fill x t)).eval T).run cache').1 ∧
        ((e.holds T).run cache).1 = (((e.map (PatternTerm.fill x t)).holds T).run cache').1) ∧
    (∀ T T' : VariableTable, (∀ id, .slot id ∈ e.leaves → T.value id = T'.value id) →
      ∀ cache, (e.eval T).run cache = (e.eval T').run cache ∧
        (e.holds T).run cache = (e.holds T').run cache) := by
  constructor
  · intro T x t bound direct cache cache' reached reached'
    have same := value_fill bound direct
    rw [eval_of_reached T _ reached, eval_of_reached T _ reached', holds_of_reached T _ reached,
      holds_of_reached T _ reached', accepts_eq, accepts_eq]
    exact ⟨same, same.truthOf_eq⟩
  · intro T T' slots cache
    rw [eval_congr e slots, holds_congr slots]
    exact ⟨rfl, rfl⟩

end Fill

def textAndPattern : VariableTable :=
  (((VariableTable.empty.push "text" true).push "pattern" true).bind ⟨0⟩
    (.literal (.plain "Alice"))).bind ⟨1⟩ (.literal (.plain "/^A/s"))

/-- `?text =~ ?pattern && BOUND(?text)`: of the two slots `bound` has the first one for its
argument. -/
def askedMatch : Expression :=
  both (binary .textMatch (slot ⟨0⟩) (slot ⟨1⟩)) (call "BOUND" [slot ⟨0⟩])

/-- The pattern may be written as a constant, and it does not matter that there is another
variable. -/
theorem askedMatch_constant :
    textAndPattern.value ⟨1⟩ = some (.literal (.plain "/^A/s")) ∧
      .slot ⟨1⟩ ∉ askedMatch.asked ∧ ((askedMatch.holds textAndPattern).run .empty).1 = true ∧
      (((askedMatch.map (.fill ⟨1⟩ (.literal (.plain "/^A/s")))).holds textAndPattern).run
        .empty).1 = true ∧
      ((askedMatch.holds (textAndPattern.push "other" false)).run .empty).1 = true := by
  have bound : textAndPattern.value ⟨1⟩ = some (.literal (.plain "/^A/s")) := by decide
  have direct : .slot ⟨1⟩ ∉ askedMatch.asked := by decide
  have holds : ((askedMatch.holds textAndPattern).run .empty).1 = true := by decide +kernel
  have same := ((slot_as_constant askedMatch).1 _ _ _ bound direct _ _ .fresh .fresh).2
  have slots : ∀ id, .slot id ∈ askedMatch.leaves →
      textAndPattern.value id = (textAndPattern.push "other" false).value id := by
    intro id mem
    have place : id = ⟨0⟩ ∨ id = ⟨1⟩ ∨ id = ⟨0⟩ := by
      simpa [askedMatch, both, slot, leaves, argsLeaves] using mem
    rcases place with rfl | rfl | rfl <;> rfl
  have alone := ((slot_as_constant askedMatch).2 _ _ slots .empty).2
  exact ⟨bound, direct, holds, same ▸ holds, alone ▸ holds⟩

end Expression

end GraphPattern
