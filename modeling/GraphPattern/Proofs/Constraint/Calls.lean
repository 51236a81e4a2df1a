/-
# The cache of an evaluator does not show

An evaluator answers one call after the other, and its calls share the regular expressions
that it has read.  Every answer is nevertheless that of a fresh evaluator, and at every
moment, those in the middle of a call among them, each entry of the cache is what its own
source text stands for (`answers_fresh`).

A moment of an evaluation is told by the parts of the expression that have been evaluated
by then (`Expression.Moment`).  Nothing is lost by that: outside of its operands an
evaluation touches the cache at most once, where a match reads its pattern, and it is over
then.
-/
import GraphPattern.Proofs.Constraint.Value

namespace GraphPattern

/-! ## The moments of an evaluation -/

/-- The caches at the moments of an evaluation: at its beginning and its end, and at the
moments of its operands.  A second operand counts whether or not the first one lets it be
evaluated. -/
inductive Expression.Moment (T : VariableTable) :
    Expression → RegexCache → RegexCache → Prop where
  | start (e : Expression) (cache : RegexCache) : Moment T e cache cache
  | finish (e : Expression) (cache : RegexCache) : Moment T e cache ((e.eval T).run cache).2
  | left {op : BinaryOp} {l : Expression} (r : Expression) {cache cache' : RegexCache}
      (h : Moment T l cache cache') : Moment T (binary op l r) cache cache'
  | right {op : BinaryOp} (l : Expression) {r : Expression} {cache cache' : RegexCache}
      (h : Moment T r ((l.eval T).run cache).2 cache') : Moment T (binary op l r) cache cache'
  | operand {op : UnaryOp} {e : Expression} {cache cache' : RegexCache}
      (h : Moment T e cache cache') : Moment T (unary op e) cache cache'
  | argument {name : String} {arg : Expression} {cache cache' : RegexCache}
      (h : Moment T arg cache cache') : Moment T (call name [arg]) cache cache'

/-- In the middle of an evaluation there is a cache that evaluations alone lead to. -/
theorem Expression.Moment.reached {T : VariableTable} {e : Expression}
    {cache cache' : RegexCache} (h : e.Moment T cache cache') (reached : cache.Reached) :
    cache'.Reached := by
  induction h with
  | start => exact reached
  | finish e => exact reached.evaluated T e
  | left _ _ ih | operand _ ih | argument _ ih => exact ih reached
  | right l _ ih => exact ih (reached.evaluated T l)

/-! ## Calls -/

/-- What an evaluator is called for: the value of an expression under a table, or whether
the expression holds under it. -/
inductive EvaluatorCall where
  | value (table : VariableTable) (e : Expression)
  | verdict (table : VariableTable) (e : Expression)

/-- What an evaluator answers. -/
inductive EvaluatorReply where
  | value (result : Except EvalError Value)
  | verdict (holds : Bool)

namespace EvaluatorCall

def table : EvaluatorCall → VariableTable
  | value table _ => table
  | verdict table _ => table

def expression : EvaluatorCall → Expression
  | value _ e => e
  | verdict _ e => e

/-- The answer to a call, and the cache that the evaluator is left with. -/
def answer (call : EvaluatorCall) (cache : RegexCache) : EvaluatorReply × RegexCache :=
  match call with
  | value table e => ((e.eval table).run cache).map .value id
  | verdict table e => ((e.holds table).run cache).map .verdict id

/-- The answers to calls that are made one after the other. -/
def answers : List EvaluatorCall → RegexCache → List EvaluatorReply
  | [], _ => []
  | call :: calls, cache => (call.answer cache).1 :: answers calls (call.answer cache).2

/-- The caches at the moments of a sequence of calls: between them, and at the moments of
their evaluations. -/
inductive Moment : List EvaluatorCall → RegexCache → RegexCache → Prop where
  | between (calls : List EvaluatorCall) (cache : RegexCache) : Moment calls cache cache
  | during {call : EvaluatorCall} (calls : List EvaluatorCall) {cache cache' : RegexCache}
      (h : call.expression.Moment call.table cache cache') : Moment (call :: calls) cache cache'
  | later (call : EvaluatorCall) {calls : List EvaluatorCall} {cache cache' : RegexCache}
      (h : Moment calls (call.answer cache).2 cache') : Moment (call :: calls) cache cache'

variable {cache cache' : RegexCache}

theorem answer_eq (call : EvaluatorCall) (reached : cache.Reached) :
    (call.answer cache).1 = (call.answer .empty).1 := by
  cases call with
  | value table e =>
      have same := Expression.eval_of_reached table e reached
      exact congrArg EvaluatorReply.value same
  | verdict table e =>
      have same := Expression.holds_of_reached table e reached
      exact congrArg EvaluatorReply.verdict same

theorem reached_answer (call : EvaluatorCall) (reached : cache.Reached) :
    (call.answer cache).2.Reached := by
  cases call with
  | value table e => exact reached.evaluated table e
  | verdict table e =>
      show ((e.holds table).run cache).2.Reached
      rw [Expression.holds_run]
      exact reached.evaluated table e

theorem answers_eq (calls : List EvaluatorCall) (reached : cache.Reached) :
    answers calls cache = calls.map fun call => (call.answer .empty).1 := by
  induction calls generalizing cache with
  | nil => rfl
  | cons call calls ih =>
      rw [answers, call.answer_eq reached, ih (call.reached_answer reached), List.map_cons]

theorem Moment.reached {calls : List EvaluatorCall} (h : Moment calls cache cache')
    (reached : cache.Reached) : cache'.Reached := by
  induction h with
  | between => exact reached
  | during _ h => exact h.reached reached
  | later call _ ih => exact ih (call.reached_answer reached)

/-- **The cache of an evaluator is invisible.**  Each of its answers is that of a fresh
evaluator; and whatever is in the cache at some moment is the regular expression that is
read, with its flags, from the very text under which it is kept. -/
theorem answers_fresh (calls : List EvaluatorCall) :
    answers calls .empty = (calls.map fun call => (call.answer .empty).1) ∧
      ∀ cache, Moment calls .empty cache →
        ∀ source r, cache.get? source = some r → Regex.ofSource source = .ok r := by
  refine ⟨answers_eq calls .fresh, ?_⟩
  intro cache moment source r kept
  exact Evaluation.ofSource_of_readRegex ((moment.reached .fresh).sound source r kept)

/-- `"Alice" =~ source`: a match with a pattern that is written as a constant. -/
def aliceMatches (source : String) : Expression :=
  .binary .textMatch (.const (.literal (.plain "Alice"))) (.const (.literal (.plain source)))

/-- Three calls: the first one stops at a pattern that cannot be read, after it has read
another one, which the others use again. -/
def threeCalls : List EvaluatorCall :=
  [.verdict .empty (.binary .textEq (aliceMatches "/^A/s") (aliceMatches "(")),
    .value .empty (aliceMatches "/^A/s"),
    .verdict .empty (.unary .not (aliceMatches "/^A/s"))]

/-- In the middle of the first call the cache has an entry. -/
theorem threeCalls_fresh :
    answers threeCalls .empty = (threeCalls.map fun call => (call.answer .empty).1) ∧
      ∃ cache r, Moment threeCalls .empty cache ∧ cache.get? "/^A/s" = some r ∧
        Regex.ofSource "/^A/s" = .ok r := by
  have first := Expression.Moment.finish (T := .empty) (aliceMatches "/^A/s") .empty
  have moment : Moment threeCalls .empty (((aliceMatches "/^A/s").eval .empty).run .empty).2 :=
    .during _ (.left _ first)
  have kept : ((((aliceMatches "/^A/s").eval .empty).run .empty).2.get? "/^A/s").isSome := by
    decide +kernel
  obtain ⟨r, found⟩ := Option.isSome_iff_exists.mp kept
  exact ⟨(answers_fresh threeCalls).1, _, r, moment, found,
    (answers_fresh threeCalls).2 _ moment _ r found⟩

end EvaluatorCall

end GraphPattern
