/-
# Leaves that stand for the same

Two expressions of one shape have the same value if their leaves are *alike*: each pair
has one value, and is one argument to every function that takes the value of its argument.
`bound` does not; what it says of a leaf is asked for apart, and only where a leaf is its
argument (`Expression.asked`).  So the places of variables do not matter: leaves *agree* if
they are one term, or slots with the same value.  The errors may differ, since their texts
name slots, but one side has an error if the other has.  Conjunctions are here too: what
they accept is what all their parts accept.
-/
import GraphPattern.Proofs.Constraint.Value
import GraphPattern.Proofs.Query.Pass

namespace GraphPattern

/-! ## Results without their errors -/

section Results

variable {ε α β : Type}

/-- Both results are the same value, or both are errors. -/
def AgreeUpToError (r r' : Except ε α) : Prop := r.toOption = r'.toOption

theorem AgreeUpToError.refl (r : Except ε α) : AgreeUpToError r r := rfl

theorem AgreeUpToError.errors (e e' : ε) :
    AgreeUpToError (.error e : Except ε α) (.error e') := rfl

theorem AgreeUpToError.bind {r r' : Except ε α} (h : AgreeUpToError r r')
    {f f' : α → Except ε β} (each : ∀ a, AgreeUpToError (f a) (f' a)) :
    AgreeUpToError (r.bind f) (r'.bind f') := by
  cases r with
  | ok a =>
      cases r' with
      | ok a' =>
          obtain rfl : a = a' := Option.some.inj h
          exact each a
      | error e => cases h
  | error e =>
      cases r' with
      | ok a' => cases h
      | error e' => rfl

end Results

theorem AgreeUpToError.truthOf_eq {r r' : Except EvalError Value} (h : AgreeUpToError r r') :
    Evaluation.truthOf r = Evaluation.truthOf r' := by
  cases r with
  | ok v =>
      cases r' with
      | ok v' =>
          obtain rfl : v = v' := Option.some.inj h
          rfl
      | error e => cases h
  | error e =>
      cases r' with
      | ok v' => cases h
      | error e' => rfl

/-! ## Leaves that are alike -/

namespace Expression

def leaf? : Expression → Option PatternTerm
  | leaf t => some t
  | _ => none

mutual

/-- The leaves that are arguments of `bound` as they stand. -/
def asked : Expression → List PatternTerm
  | leaf _ => []
  | binary _ l r => l.asked ++ r.asked
  | unary _ e => e.asked
  | call name args =>
    (if Evaluation.lowerName name = "bound" then args.filterMap leaf? else []) ++ argsAsked args

def argsAsked : List Expression → List PatternTerm
  | [] => []
  | e :: es => e.asked ++ argsAsked es

end

theorem leaves_of_leaf? {e : Expression} {t : PatternTerm} (h : e.leaf? = some t) :
    e.leaves = [t] := by
  cases e with
  | leaf u =>
      obtain rfl := Option.some.inj h
      rfl
  | _ => cases h

theorem mem_argsLeaves_of_leaf? {t : PatternTerm} {args : List Expression}
    (h : t ∈ args.filterMap leaf?) : t ∈ argsLeaves args := by
  induction args with
  | nil => cases h
  | cons e es ih =>
      rw [List.filterMap_cons] at h
      cases direct : e.leaf? with
      | none => exact List.mem_append_right _ (ih (by rwa [direct] at h))
      | some u =>
          rw [direct] at h
          rcases List.mem_cons.mp h with rfl | h
          · rw [argsLeaves, leaves_of_leaf? direct]
            exact List.mem_append_left _ (List.mem_singleton_self t)
          · exact List.mem_append_right _ (ih h)

mutual

theorem asked_subset_leaves : ∀ e : Expression, e.asked ⊆ e.leaves
  | leaf _ => List.nil_subset _
  | binary _ l r => List.append_subset.mpr
      ⟨List.subset_append_of_subset_left _ (asked_subset_leaves l),
        List.subset_append_of_subset_right _ (asked_subset_leaves r)⟩
  | unary _ e => asked_subset_leaves e
  | call name args => by
      rw [asked]
      refine List.append_subset.mpr ⟨?_, argsAsked_subset_argsLeaves args⟩
      split
      · exact fun t => mem_argsLeaves_of_leaf?
      · exact List.nil_subset _

theorem argsAsked_subset_argsLeaves : ∀ es : List Expression, argsAsked es ⊆ argsLeaves es
  | [] => List.nil_subset _
  | e :: es => List.append_subset.mpr
      ⟨List.subset_append_of_subset_left _ (asked_subset_leaves e),
        List.subset_append_of_subset_right _ (argsAsked_subset_argsLeaves es)⟩

end

open Evaluation

variable {T T' : VariableTable} {f g : PatternTerm → PatternTerm}

/-- Two leaves have one value, and are one argument to a function that takes its value. -/
structure LeavesAlike (T T' : VariableTable) (t u : PatternTerm) : Prop where
  value : AgreeUpToError (leafValue T t) (leafValue T' u)
  argument :
    AgreeUpToError (argument T (leaf t) (leafValue T t)) (argument T' (leaf u) (leafValue T' u))

/-- `bound` says the same of two leaves. -/
def BoundAlike (T T' : VariableTable) (t u : PatternTerm) : Prop :=
  AgreeUpToError (applyBound T (leaf t)) (applyBound T' (leaf u))

theorem length_mapArgs (f : PatternTerm → PatternTerm) (args : List Expression) :
    (mapArgs f args).length = args.length := by
  induction args with
  | nil => rfl
  | cons e es ih => rw [mapArgs, List.length_cons, ih, List.length_cons]

theorem argument_alike {arg : Expression} (alike : ∀ t ∈ arg.leaves, LeavesAlike T T' (f t) (g t))
    (results : AgreeUpToError ((arg.map f).value T) ((arg.map g).value T')) :
    AgreeUpToError (argument T (arg.map f) ((arg.map f).value T))
      (argument T' (arg.map g) ((arg.map g).value T')) := by
  cases arg with
  | leaf t => exact (alike t (List.mem_singleton_self t)).argument
  | _ => exact results.bind fun v => .refl _

theorem callResult_alike (name : String) {arg : Expression}
    (alike : ∀ t ∈ arg.leaves, LeavesAlike T T' (f t) (g t))
    (bound : ∀ t ∈ (call name [arg]).asked, BoundAlike T T' (f t) (g t))
    (results : AgreeUpToError ((arg.map f).value T) ((arg.map g).value T')) :
    AgreeUpToError (callResult T (lowerName name) (arg.map f) ((arg.map f).value T))
      (callResult T' (lowerName name) (arg.map g) ((arg.map g).value T')) := by
  unfold callResult
  split
  · next asks =>
      cases arg with
      | leaf t => exact bound t (by simp [asked, asks, leaf?])
      | _ => exact .errors _ _
  · exact (argument_alike alike results).bind fun _ => .refl _

/-- **Expressions whose leaves are alike have the same value.**  The recursion is that of an
evaluation; the arguments of a function are looked at only if there is one. -/
theorem value_alike : ∀ e : Expression, (∀ t ∈ e.leaves, LeavesAlike T T' (f t) (g t)) →
    (∀ t ∈ e.asked, BoundAlike T T' (f t) (g t)) →
    AgreeUpToError ((e.map f).value T) ((e.map g).value T')
  | leaf t, alike, _ => (alike t (List.mem_singleton_self t)).value
  | binary op l r, alike, bound => by
      have left := value_alike l (fun t ht => alike t (List.mem_append_left _ ht))
        fun t ht => bound t (List.mem_append_left _ ht)
      have right := value_alike r (fun t ht => alike t (List.mem_append_right _ ht))
        fun t ht => bound t (List.mem_append_right _ ht)
      have accepts : (l.map f).accepts T = (l.map g).accepts T' ∧
          (r.map f).accepts T = (r.map g).accepts T' := by
        simp only [accepts_eq, left.truthOf_eq, right.truthOf_eq, and_self]
      simp only [Expression.map]
      by_cases hand : op = .and
      · subst hand
        simp only [value_and, accepts]
        exact .refl _
      by_cases hor : op = .or
      · subst hor
        simp only [value_or, accepts]
        exact .refl _
      rw [value_binary T hand hor, value_binary T' hand hor]
      exact left.bind fun v => right.bind fun w => .refl _
  | unary op e, alike, bound => by
      simp only [Expression.map, value_unary]
      exact (value_alike e alike bound).bind fun v => .refl _
  | call name [], _, _ => .refl _
  | call name [arg], alike, bound => by
      have leaves : ∀ t ∈ arg.leaves, LeavesAlike T T' (f t) (g t) := by
        intro t ht
        exact alike t (by simpa [leaves, argsLeaves] using ht)
      have inside : ∀ t ∈ arg.asked, BoundAlike T T' (f t) (g t) := by
        intro t ht
        exact bound t (List.mem_append_right _ (List.mem_append_left _ ht))
      simp only [Expression.map, mapArgs, value_call]
      exact callResult_alike name leaves bound (value_alike arg leaves inside)
  | call name (_ :: _ :: _), _, _ => by
      simp only [Expression.map]
      rw [value_call_ne T name (by simp [length_mapArgs]),
        value_call_ne T' name (by simp [length_mapArgs])]
      exact .errors _ _

end Expression

/-! ## Leaves that agree -/

/-- Two leaves are one term, or slots with the same value. -/
inductive LeavesAgree (T T' : VariableTable) : PatternTerm → PatternTerm → Prop where
  | term (u : Term) : LeavesAgree T T' (.term u) (.term u)
  | slot {i j : VarId} (h : T.value i = T'.value j) : LeavesAgree T T' (.slot i) (.slot j)

section Agree

open Evaluation

variable {T T' : VariableTable} {t u : PatternTerm}

theorem LeavesAgree.alike (h : LeavesAgree T T' t u) : Expression.LeavesAlike T T' t u := by
  cases h with
  | term u => exact ⟨.refl _, .refl _⟩
  | slot same =>
      constructor
      · simp only [leafValue, same]
        exact .refl _
      · simp only [argument, same]
        exact .refl _

theorem LeavesAgree.boundAlike (h : LeavesAgree T T' t u) : Expression.BoundAlike T T' t u := by
  cases h with
  | term u => exact .errors _ _
  | slot same =>
      simp only [Expression.BoundAlike, applyBound, same]
      exact .refl _

end Agree

namespace Expression

variable {T T' : VariableTable} {f g : PatternTerm → PatternTerm}

theorem value_agree (e : Expression) (h : ∀ t ∈ e.leaves, LeavesAgree T T' (f t) (g t)) :
    AgreeUpToError ((e.map f).value T) ((e.map g).value T') :=
  value_alike e (fun t ht => (h t ht).alike) fun t ht => (h t (asked_subset_leaves e ht)).boundAlike

theorem accepts_agree {e : Expression} (h : ∀ t ∈ e.leaves, LeavesAgree T T' (f t) (g t)) :
    (e.map f).accepts T = (e.map g).accepts T' := by
  rw [accepts_eq, accepts_eq, (value_agree e h).truthOf_eq]

/-! ## Conjunctions -/

theorem accepts_foldl_both (T : VariableTable) (e : Expression) (es : List Expression) :
    (es.foldl both e).accepts T = (e.accepts T && es.all fun e => e.accepts T) := by
  induction es generalizing e with
  | nil => simp
  | cons e' es ih =>
      rw [List.foldl_cons, ih, both, accepts_and, List.all_cons, Bool.and_assoc]

end Expression

end GraphPattern
