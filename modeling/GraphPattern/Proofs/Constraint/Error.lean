/-
# Where an error can end

An evaluation error is passed on by every operator but the connectives, which count an
erring side as false.  `Reaches` says what the evaluation of an expression evaluates, with
the *frames* that stand between the two and with what is *demanded* there, a value or a
truth value; it fails there if that is an error.  A failure makes the constraint false as
long as the frames on its way out are conjunctions first, seen from the root, and operators
that pass errors on below them (`Frame.Direct`).  That is so in every conjunction of
constraints without connectives of their own.  It is not so where a negation stands above
a conjunction: what the conjunction gives is the value false, and no longer an error.
-/
import GraphPattern.Proofs.Constraint.Value

namespace GraphPattern

open Evaluation

/-! ## Failures -/

/-- What is asked for where an expression is evaluated. -/
inductive Demand where
  | value
  | truth

namespace Expression

/-- What is demanded of an expression is an error. -/
def Fails (T : VariableTable) (e : Expression) : Demand → Prop
  | .value => ∃ error, e.value T = .error error
  | .truth => ∃ error, (e.value T).bind Value.truth = .error error

theorem exists_error_iff {α : Type} (r : Except EvalError α) :
    r.toOption = none ↔ ∃ error, r = .error error := by
  cases r with
  | ok a =>
      constructor
      · intro h
        cases h
      · rintro ⟨_, h⟩
        cases h
  | error x => exact ⟨fun _ => ⟨x, rfl⟩, fun _ => rfl⟩

instance (T : VariableTable) (e : Expression) : (d : Demand) → Decidable (e.Fails T d)
  | .value =>
      decidable_of_iff ((e.value T).toOption.isNone = true)
        (Option.isNone_iff_eq_none.trans (exists_error_iff _))
  | .truth =>
      decidable_of_iff (((e.value T).bind Value.truth).toOption.isNone = true)
        (Option.isNone_iff_eq_none.trans (exists_error_iff _))

variable {T : VariableTable} {e l r : Expression}

theorem Fails.truth {d : Demand} (h : e.Fails T d) : e.Fails T .truth := by
  cases d with
  | value =>
      obtain ⟨error, failed⟩ := h
      refine ⟨error, ?_⟩
      rw [failed]
      rfl
  | truth => exact h

theorem Fails.of_value {d : Demand} (h : e.Fails T .value) : e.Fails T d := by
  cases d with
  | value => exact h
  | truth => exact h.truth

theorem Fails.accepts_eq_false {d : Demand} (h : e.Fails T d) : e.accepts T = false := by
  obtain ⟨error, failed⟩ := h.truth
  rw [accepts_eq, truthOf, failed]

/-! ## Operators that pass errors on -/

theorem fails_unary {op : UnaryOp} (h : e.Fails T .value) : (unary op e).Fails T .value := by
  obtain ⟨error, failed⟩ := h
  refine ⟨error, ?_⟩
  rw [value_unary, failed]
  rfl

theorem fails_not (h : e.Fails T .truth) : (unary .not e).Fails T .value := by
  obtain ⟨error, failed⟩ := h
  refine ⟨error, ?_⟩
  rw [value_unary]
  cases result : e.value T with
  | error x =>
      rw [result] at failed
      cases failed
      rfl
  | ok v =>
      have truth : v.truth = .error error := by
        rw [result] at failed
        exact failed
      show v.truth.map (fun b => Value.boolean !b) = _
      rw [truth]
      rfl

theorem fails_left {op : BinaryOp} (hand : op ≠ .and) (hor : op ≠ .or)
    (h : l.Fails T .value) : (binary op l r).Fails T .value := by
  obtain ⟨error, failed⟩ := h
  refine ⟨error, ?_⟩
  rw [value_binary T hand hor, failed]
  rfl

theorem fails_right {op : BinaryOp} (hand : op ≠ .and) (hor : op ≠ .or) {v : Value}
    (left : l.value T = .ok v) (h : r.Fails T .value) : (binary op l r).Fails T .value := by
  obtain ⟨error, failed⟩ := h
  refine ⟨error, ?_⟩
  rw [value_binary T hand hor, left, failed]
  rfl

/-- A function evaluates its argument, unless it is `bound` or the argument is a term or a
slot as it stands. -/
def Evaluated (name : String) (arg : Expression) : Prop :=
  lowerName name ≠ "bound" ∧ (∀ id, arg ≠ slot id) ∧ ∀ t, arg ≠ const t

theorem fails_call {name : String} (evaluated : Evaluated name e) (h : e.Fails T .value) :
    (call name [e]).Fails T .value := by
  obtain ⟨named, slotFree, constFree⟩ := evaluated
  obtain ⟨error, failed⟩ := h
  have passed : argument T e (e.value T) = .error error := by
    rw [failed]
    cases e with
    | leaf t =>
        cases t with
        | slot id => exact absurd rfl (slotFree id)
        | term u => exact absurd rfl (constFree u)
        | _ => rfl
    | _ => rfl
  refine ⟨error, ?_⟩
  rw [value_call, callResult, if_neg named, passed]
  rfl

end Expression

/-! ## What an evaluation reaches -/

/-- What stands between an expression and a part of it. -/
inductive Frame where
  | conjunction
  | disjunction
  | negation
  | operator

namespace Frame

/-- What is demanded of the part. -/
def demand : Frame → Demand
  | .operator => .value
  | _ => .truth

/-- An error of the part is one of the whole. -/
def Strict (k : Frame) : Prop := k = .negation ∨ k = .operator

/-- From the root on: conjunctions, and then only frames that pass errors on. -/
def Direct : List Frame → Prop
  | [] => True
  | .conjunction :: path => Direct path
  | k :: path => ∀ k' ∈ k :: path, k'.Strict

theorem direct_of_strict {path : List Frame} (h : ∀ k ∈ path, k.Strict) : Direct path := by
  cases path with
  | nil => trivial
  | cons k path =>
      obtain rfl | rfl := h k (List.mem_cons_self ..)
      · exact h
      · exact h

end Frame

namespace Expression

/-- The evaluation of an expression evaluates a part of it, which stands in a frame.  The
second side of a connective is evaluated if the first one does not decide, and the second
operand of another operator if the first one has a value. -/
inductive Step (T : VariableTable) : Frame → Expression → Expression → Prop where
  | andLeft (l r : Expression) : Step T .conjunction (binary .and l r) l
  | andRight {l : Expression} (r : Expression) (h : l.accepts T = true) :
      Step T .conjunction (binary .and l r) r
  | orLeft (l r : Expression) : Step T .disjunction (binary .or l r) l
  | orRight {l : Expression} (r : Expression) (h : l.accepts T = false) :
      Step T .disjunction (binary .or l r) r
  | left {op : BinaryOp} (l r : Expression) (hand : op ≠ .and) (hor : op ≠ .or) :
      Step T .operator (binary op l r) l
  | right {op : BinaryOp} {l : Expression} (r : Expression) (hand : op ≠ .and) (hor : op ≠ .or)
      {v : Value} (h : l.value T = .ok v) : Step T .operator (binary op l r) r
  | not (e : Expression) : Step T .negation (unary .not e) e
  | neg (e : Expression) : Step T .operator (unary .neg e) e
  | argument {name : String} {arg : Expression} (h : Evaluated name arg) :
      Step T .operator (call name [arg]) arg

/-- The evaluation of an expression, of which something is demanded, evaluates another one,
and what is demanded there; the frames lead from the one to the other. -/
inductive Reaches (T : VariableTable) :
    Demand → Expression → List Frame → Demand → Expression → Prop where
  | here (d : Demand) (e : Expression) : Reaches T d e [] d e
  | inside {d d' : Demand} {k : Frame} {e s u : Expression} {path : List Frame}
      (step : Step T k e s) (rest : Reaches T k.demand s path d' u) :
      Reaches T d e (k :: path) d' u

variable {T : VariableTable}

/-- One step out of a frame that passes errors on. -/
theorem Step.fails {k : Frame} {e s : Expression} (step : Step T k e s) (strict : k.Strict)
    (h : s.Fails T k.demand) : e.Fails T .value := by
  cases step with
  | andLeft | andRight | orLeft | orRight => rcases strict with h | h <;> cases h
  | left _ _ hand hor => exact fails_left hand hor h
  | right _ hand hor left => exact fails_right hand hor left h
  | not => exact fails_not h
  | neg => exact fails_unary h
  | argument evaluated => exact fails_call evaluated h

/-- One step out of a conjunction: it does not accept if a side of it that is evaluated
does not. -/
theorem Step.refuses {e s : Expression} (step : Step T .conjunction e s)
    (h : s.accepts T = false) : e.accepts T = false := by
  cases step with
  | andLeft l r => rw [accepts_and, h, Bool.false_and]
  | andRight r left => rw [accepts_and, h, Bool.and_false]

theorem Reaches.fails {d d' : Demand} {e u : Expression} {path : List Frame}
    (reaches : Reaches T d e path d' u) (strict : ∀ k ∈ path, k.Strict) (h : u.Fails T d') :
    e.Fails T d := by
  induction reaches with
  | here d e => exact h
  | inside step _ ih =>
      obtain ⟨first, rest⟩ := List.forall_mem_cons.mp strict
      exact (step.fails first (ih rest h)).of_value

theorem Reaches.refuses {d d' : Demand} {e u : Expression} {path : List Frame}
    (reaches : Reaches T d e path d' u) (direct : Frame.Direct path) (h : u.Fails T d') :
    e.accepts T = false := by
  induction reaches with
  | here d e => exact h.accepts_eq_false
  | @inside d _ k e _ _ path step rest ih =>
      cases k with
      | conjunction => exact step.refuses (ih direct h)
      | _ => exact (Reaches.fails (d := d) (.inside step rest) direct h).accepts_eq_false

/-! ## Constraints without connectives of their own -/

mutual

def operators : Expression → List BinaryOp
  | leaf _ => []
  | binary op l r => op :: (l.operators ++ r.operators)
  | unary _ e => e.operators
  | call _ args => argsOperators args

def argsOperators : List Expression → List BinaryOp
  | [] => []
  | e :: es => e.operators ++ argsOperators es

end

/-- Conjunctions stand at the top of an expression only, and there is no disjunction. -/
inductive Conjunctive : Expression → Prop where
  | single {e : Expression} (hand : BinaryOp.and ∉ e.operators)
      (hor : BinaryOp.or ∉ e.operators) : Conjunctive e
  | both {l r : Expression} (hl : Conjunctive l) (hr : Conjunctive r) :
      Conjunctive (binary .and l r)

theorem Step.mem_operators {k : Frame} {e s : Expression} (step : Step T k e s) {op : BinaryOp}
    (h : op ∈ s.operators) : op ∈ e.operators := by
  cases step with
  | not | neg => exact h
  | argument => exact List.mem_append_left _ h
  | andLeft | orLeft | left => exact List.mem_cons_of_mem _ (List.mem_append_left _ h)
  | andRight | orRight | right => exact List.mem_cons_of_mem _ (List.mem_append_right _ h)

theorem Step.strict {k : Frame} {e s : Expression} (step : Step T k e s)
    (hand : BinaryOp.and ∉ e.operators) (hor : BinaryOp.or ∉ e.operators) : k.Strict := by
  cases step with
  | andLeft | andRight => exact absurd (List.mem_cons_self ..) hand
  | orLeft | orRight => exact absurd (List.mem_cons_self ..) hor
  | not => exact .inl rfl
  | left | right | neg | argument => exact .inr rfl

/-- Without connectives every frame passes errors on. -/
theorem Reaches.strict {d d' : Demand} {e u : Expression} {path : List Frame}
    (reaches : Reaches T d e path d' u) (hand : BinaryOp.and ∉ e.operators)
    (hor : BinaryOp.or ∉ e.operators) : ∀ k ∈ path, k.Strict := by
  induction reaches with
  | here d e => exact fun k hk => nomatch hk
  | inside step _ ih =>
      refine List.forall_mem_cons.mpr ⟨step.strict hand hor, ih ?_ ?_⟩
      · exact fun h => hand (step.mem_operators h)
      · exact fun h => hor (step.mem_operators h)

theorem Conjunctive.direct {e : Expression} (h : e.Conjunctive) {d d' : Demand}
    {u : Expression} {path : List Frame} (reaches : Reaches T d e path d' u) :
    Frame.Direct path := by
  induction h generalizing d path with
  | single hand hor => exact Frame.direct_of_strict (reaches.strict hand hor)
  | both hl hr ihl ihr =>
      cases reaches with
      | here => trivial
      | inside step rest =>
          cases step with
          | andLeft =>
              -- a conjunction in front of a direct path leaves it direct
              have direct := ihl rest
              exact direct
          | andRight =>
              have direct := ihr rest
              exact direct
          | left _ _ hand => exact absurd rfl hand
          | right _ hand => exact absurd rfl hand

/-! ## Failures refuse -/

/-- **A failure makes a constraint false, unless a connective takes it for an ordinary
false first.**  The evaluation itself is an error if no connective stands above the
failure; the constraint is false if only conjunctions stand above the frames that pass the
failure on, and so whenever conjunctions are the top of the constraint. -/
theorem refuses_of_fails {T : VariableTable} {cache : RegexCache} (reached : cache.Reached)
    {e u : Expression} {path : List Frame} {d : Demand} (reaches : Reaches T .truth e path d u)
    (failure : u.Fails T d) :
    ((∀ k ∈ path, k.Strict) →
      ∃ error, ((e.eval T).run cache).1.bind Value.truth = .error error) ∧
    (Frame.Direct path → ((e.holds T).run cache).1 = false) ∧
    (e.Conjunctive → ((e.holds T).run cache).1 = false) := by
  rw [eval_of_reached T e reached, holds_of_reached T e reached]
  refine ⟨?_, ?_, ?_⟩
  · intro strict
    exact reaches.fails strict failure
  · intro direct
    exact reaches.refuses direct failure
  · intro conjunctive
    exact reaches.refuses (conjunctive.direct reaches) failure

def quotientByZero : Expression :=
  binary .div (const (.literal (.ofInt 1))) (const (.literal (.ofInt 0)))

/-- `1 / 0 == 1`: a comparison of it. -/
def comparedQuotient : Expression :=
  binary .eq quotientByZero (const (.literal (.ofInt 1)))

/-- `1 / 0 == 1 && true`: a conjunction of the comparison. -/
def guardedQuotient : Expression := both comparedQuotient (const (.literal (.ofBool true)))

/-- Neither the comparison nor the conjunction holds. -/
theorem guardedQuotient_refused :
    quotientByZero.Fails .empty .value ∧
      Reaches .empty .truth guardedQuotient [.conjunction, .operator] .value quotientByZero ∧
      Frame.Direct [.conjunction, .operator] ∧ guardedQuotient.Conjunctive ∧
      (∃ error, ((comparedQuotient.eval .empty).run .empty).1.bind Value.truth = .error error) ∧
      ((guardedQuotient.holds .empty).run .empty).1 = false := by
  have compared : ∀ d, Reaches .empty d comparedQuotient [.operator] .value quotientByZero :=
    fun d => .inside (.left _ _ (by decide) (by decide)) (.here _ _)
  have guarded : Reaches .empty .truth guardedQuotient [.conjunction, .operator] .value
      quotientByZero := .inside (.andLeft _ _) (compared _)
  have failure : quotientByZero.Fails .empty .value := by decide +kernel
  have strict : ∀ k ∈ [Frame.operator], k.Strict := by simp [Frame.Strict]
  have direct : Frame.Direct [.conjunction, .operator] := by
    have below := Frame.direct_of_strict strict
    exact below
  have conjunctive : guardedQuotient.Conjunctive :=
    .both (.single (by decide) (by decide)) (.single (by decide) (by decide))
  exact ⟨failure, guarded, direct, conjunctive,
    (refuses_of_fails .fresh (compared _) failure).1 strict,
    (refuses_of_fails .fresh guarded failure).2.1 direct⟩

/-- `!(1 / 0 == 1 && true)` has no disjunction, and its evaluation reaches an error.  It
accepts: the conjunction has the value false, which is negated. -/
theorem negated_guardedQuotient_accepts :
    BinaryOp.or ∉ (unary .not guardedQuotient).operators ∧
      Reaches .empty .truth (unary .not guardedQuotient) [.negation, .conjunction, .operator]
        .value quotientByZero ∧
      quotientByZero.Fails .empty .value ∧
      (((unary .not guardedQuotient).holds .empty).run .empty).1 = true := by
  refine ⟨by decide, ?_, by decide +kernel, by decide +kernel⟩
  exact .inside (.not _) (.inside (.andLeft _ _)
    (.inside (.left _ _ (by decide) (by decide)) (.here _ _)))

end Expression

end GraphPattern
