/-
# The value of an expression

`Expression.value` is the result of a fresh evaluation and `Expression.accepts` says
whether a constraint holds by one.  Every evaluation gives them, whatever was read
before (`eval_gives`, `holds_gives`), and they have the equations of an evaluation
without a cache: one for each shape of an expression.  An evaluator starts with an empty
cache and only evaluates (`RegexCache.Reached`), so its verdicts are those of a fresh one.
-/
import GraphPattern.Proofs.Constraint.Cache

namespace GraphPattern

/-! ## Calls -/

namespace Evaluation

/-- The term that an argument is, from the result of its evaluation. -/
def argument (table : VariableTable) (arg : Expression) (r : Except EvalError Value) :
    Except EvalError (Option Term) :=
  match arg with
  | .leaf (.slot id) => .ok (table.value id)
  | .leaf (.term t) => .ok (some t)
  | _ => r.bind fun v => .ok v.toTerm?

/-- The result of a function of one argument, from the result of the argument. -/
def callResult (table : VariableTable) (name : String) (arg : Expression)
    (r : Except EvalError Value) : Except EvalError Value :=
  if name = "bound" then applyBound table arg
  else
    (argument table arg r).bind fun
      | none => .error (.unbound (name ++ "()"))
      | some t => applyFunction name t

theorem gives_argumentTerm (table : VariableTable) (arg : Expression) {value : Evaluation Value}
    {r : Except EvalError Value} (h : value.Gives r) :
    (argumentTerm table arg value).Gives (argument table arg r) := by
  cases arg with
  | leaf t =>
      cases t with
      | slot id => exact gives_pure (table.value id)
      | term t => exact gives_pure (some t)
      | _ => exact h.bind fun v => gives_pure v.toTerm?
  | _ => exact h.bind fun v => gives_pure v.toTerm?

theorem gives_callOne (table : VariableTable) (name : String) (arg : Expression)
    {value : Evaluation Value} {r : Except EvalError Value} (h : value.Gives r) :
    (callOne table name arg value).Gives (callResult table name arg r) := by
  unfold callOne callResult
  split
  · exact gives_lift _
  · refine (gives_argumentTerm table arg h).bind fun t => ?_
    cases t with
    | none => exact gives_throw _
    | some t => exact gives_lift _

end Evaluation

namespace Expression

open Evaluation

def value (table : VariableTable) (e : Expression) : Except EvalError Value :=
  (e.eval table).fresh

def accepts (table : VariableTable) (e : Expression) : Bool := (e.holds table .empty).1

theorem holds_run (table : VariableTable) (e : Expression) (cache : RegexCache) :
    (e.holds table).run cache =
      (truthOf ((e.eval table).run cache).1, ((e.eval table).run cache).2) := by
  unfold holds truthOf
  simp only [StateT.run]
  generalize (e.eval table).run cache = x
  obtain ⟨result, cache'⟩ := x
  dsimp only
  cases result.bind Value.truth <;> rfl

theorem accepts_eq (table : VariableTable) (e : Expression) :
    e.accepts table = truthOf (e.value table) :=
  congrArg Prod.fst (e.holds_run table .empty)

/-! ## Every evaluation is steady -/

section Steady

variable {table : VariableTable} {l r : Expression}

theorem gives_and (hl : (l.eval table).Steady) (hr : (r.eval table).Steady) :
    ((binary .and l r).eval table).Gives
      (.ok (.boolean (l.accepts table && r.accepts table))) := by
  have right : ∀ b : Bool, Gives
      (if b then do return Value.boolean (← truthOrFalse (r.eval table))
        else return Value.boolean false)
      (.ok (.boolean (b && r.accepts table))) := by
    intro b
    rw [accepts_eq]
    cases b with
    | true => exact (gives_truthOrFalse hr).bind fun b => gives_pure _
    | false => exact gives_pure _
  rw [accepts_eq table l]
  exact (gives_truthOrFalse hl).bind right

theorem gives_or (hl : (l.eval table).Steady) (hr : (r.eval table).Steady) :
    ((binary .or l r).eval table).Gives
      (.ok (.boolean (l.accepts table || r.accepts table))) := by
  have right : ∀ b : Bool, Gives
      (if b then return Value.boolean true
        else do return Value.boolean (← truthOrFalse (r.eval table)))
      (.ok (.boolean (b || r.accepts table))) := by
    intro b
    rw [accepts_eq]
    cases b with
    | true => exact gives_pure _
    | false => exact (gives_truthOrFalse hr).bind fun b => gives_pure _
  rw [accepts_eq table l]
  exact (gives_truthOrFalse hl).bind right

theorem eval_binary {op : BinaryOp} (hand : op ≠ .and) (hor : op ≠ .or) :
    (binary op l r).eval table = (do
      let v ← l.eval table
      let w ← r.eval table
      applyBinary op (isConstant r) v w) := by
  cases op <;> first | exact absurd rfl hand | exact absurd rfl hor | rfl

theorem gives_binary {op : BinaryOp} (hand : op ≠ .and) (hor : op ≠ .or)
    (hl : (l.eval table).Steady) (hr : (r.eval table).Steady) :
    ((binary op l r).eval table).Gives
      ((l.value table).bind fun v => (r.value table).bind fun w => combine op v w) := by
  rw [eval_binary hand hor]
  exact hl.bind fun v => hr.bind fun w => gives_applyBinary op _ v w

theorem gives_unary {op : UnaryOp} (hl : (l.eval table).Steady) :
    ((unary op l).eval table).Gives ((l.value table).bind (applyUnary op)) :=
  hl.bind fun _ => gives_lift _

theorem gives_call {name : String} (hl : (l.eval table).Steady) :
    ((call name [l]).eval table).Gives (callResult table (lowerName name) l (l.value table)) :=
  gives_callOne table (lowerName name) l hl

end Steady

/-- **What was read before an expression is evaluated does not show.** -/
theorem eval_steady (table : VariableTable) : ∀ e : Expression, (e.eval table).Steady
  | leaf t => (gives_lift (leafValue table t)).steady
  | binary op l r => by
      have hl := eval_steady table l
      have hr := eval_steady table r
      by_cases hand : op = .and
      · subst hand
        exact (gives_and hl hr).steady
      by_cases hor : op = .or
      · subst hor
        exact (gives_or hl hr).steady
      exact (gives_binary hand hor hl hr).steady
  | unary op e => (gives_unary (eval_steady table e)).steady
  | call name [] => (gives_throw _).steady
  | call name [arg] => (gives_call (eval_steady table arg)).steady
  | call name (_ :: _ :: _) => (gives_throw _).steady

/-- A constraint holds by a fresh evaluation if it holds by any, and the regular
expressions that were read stay what they are. -/
theorem holds_eq (table : VariableTable) (e : Expression) {cache : RegexCache}
    (sound : cache.Sound) :
    ((e.holds table).run cache).1 = e.accepts table ∧
      ((e.holds table).run cache).2.Sound := by
  obtain ⟨same, sound'⟩ := eval_steady table e cache sound
  rw [holds_run, same, accepts_eq]
  exact ⟨rfl, sound'⟩

/-! ## The equations of values -/

section Equations

variable (table : VariableTable)

theorem value_leaf (t : PatternTerm) : (leaf t).value table = leafValue table t := rfl

theorem value_and (l r : Expression) : (binary .and l r).value table =
    .ok (.boolean (l.accepts table && r.accepts table)) :=
  (gives_and (eval_steady table l) (eval_steady table r)).fresh_eq

theorem value_or (l r : Expression) : (binary .or l r).value table =
    .ok (.boolean (l.accepts table || r.accepts table)) :=
  (gives_or (eval_steady table l) (eval_steady table r)).fresh_eq

theorem value_binary {op : BinaryOp} (hand : op ≠ .and) (hor : op ≠ .or) (l r : Expression) :
    (binary op l r).value table =
      (l.value table).bind fun v => (r.value table).bind fun w => combine op v w :=
  (gives_binary hand hor (eval_steady table l) (eval_steady table r)).fresh_eq

theorem value_unary (op : UnaryOp) (e : Expression) :
    (unary op e).value table = (e.value table).bind (applyUnary op) :=
  (gives_unary (eval_steady table e)).fresh_eq

theorem value_call (name : String) (arg : Expression) : (call name [arg]).value table =
    callResult table (lowerName name) arg (arg.value table) :=
  (gives_call (eval_steady table arg)).fresh_eq

theorem value_call_ne (name : String) {args : List Expression} (h : args.length ≠ 1) :
    (call name args).value table =
      .error (.unsupported (lowerName name ++ "/" ++ toString args.length)) :=
  match args, h with
  | [], _ => rfl
  | _ :: _ :: _, _ => rfl

theorem accepts_and (l r : Expression) :
    (binary .and l r).accepts table = (l.accepts table && r.accepts table) := by
  rw [accepts_eq, value_and]
  rfl

end Equations

end Expression

/-! ## The caches of an evaluator -/

/-- The caches that an evaluator can have: it starts without an entry, and evaluates. -/
inductive RegexCache.Reached : RegexCache → Prop where
  | fresh : Reached .empty
  | evaluated {cache : RegexCache} (h : Reached cache) (table : VariableTable)
      (e : Expression) : Reached ((e.eval table).run cache).2

theorem RegexCache.Reached.sound {cache : RegexCache} (h : cache.Reached) : cache.Sound := by
  induction h with
  | fresh => exact .empty
  | evaluated _ table e ih => exact (Expression.eval_steady table e _ ih).2

namespace Expression

theorem holds_of_reached (table : VariableTable) (e : Expression) {cache : RegexCache}
    (h : cache.Reached) : ((e.holds table).run cache).1 = e.accepts table :=
  (holds_eq table e h.sound).1

theorem eval_of_reached (table : VariableTable) (e : Expression) {cache : RegexCache}
    (h : cache.Reached) : ((e.eval table).run cache).1 = e.value table :=
  (eval_steady table e cache h.sound).1

end Expression

end GraphPattern
