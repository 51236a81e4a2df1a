/-
Evaluation of constraints.

An expression is evaluated under the values that a variable table holds.
Connectives count a side without a truth value as false; every other operator
fails with its operands.  Regular expressions that are written as constants are
kept once they have been read.
-/
import GraphPattern.Regex.Parser
import GraphPattern.Regex.Search
import GraphPattern.Constraint.Operators
import GraphPattern.Query.VariableTable

namespace GraphPattern

abbrev RegexCache := OrderedMap String Regex

/-- Evaluation: a result or an error, and the regular expressions read so far. -/
abbrev Evaluation := ExceptT EvalError (StateM RegexCache)

namespace Evaluation

def readRegex (source : String) : Except EvalError Regex :=
  match Regex.ofSource source with
  | .ok r => .ok r
  | .error fault => .error (.badRegex source fault.message)

/-- The regular expression for a source text, read at most once. -/
def cachedRegex (source : String) : Evaluation Regex := do
  match (← get).get? source with
  | some r => return r
  | none =>
    let r ← readRegex source
    modify fun cache => cache.insert source r
    return r

/-- Whether a text has a match of a regular expression given as a text.  One that
is written as a constant is kept. -/
def hasMatch (constant : Bool) (source text : String) : Evaluation Bool := do
  let r ← if constant then cachedRegex source else readRegex source
  return r.isMatch text

def isConstant : Expression → Bool
  | .leaf (.term _) => true
  | _ => false

def leafValue (table : VariableTable) (t : PatternTerm) : Except EvalError Value :=
  match t with
  | .term t => .ok (.ofTerm t)
  | .slot id => .ok (((table.value id).map Value.ofTerm).getD .unbound)
  | _ => .error (.unsupported ("unresolved " ++ t.text))

/-- The truth value of an evaluation, where an error counts as false. -/
def truthOrFalse (e : Evaluation Value) : Evaluation Bool := fun cache =>
  let (result, cache) := e.run cache
  match result.bind Value.truth with
  | .ok b => (.ok b, cache)
  | .error _ => (.ok false, cache)

/-- Applies an operator that is no connective to its operands. -/
def applyBinary (op : BinaryOp) (constant : Bool) (v w : Value) : Evaluation Value :=
  match op with
  | .eq | .ne | .lt | .le | .gt | .ge => return .boolean (Value.compare op v w)
  | .add | .sub | .mul | .div | .rem => Value.arithmetic op v w
  | .textEq | .textNe =>
    match v.lexical?, w.lexical? with
    | some s, some t => return .boolean (decide (s = t) == (op == .textEq))
    | _, _ => return .boolean false
  | .textMatch | .textNoMatch =>
    match v.lexical?, w.lexical? with
    | some text, some source => do
      let found ← hasMatch constant source text
      return .boolean (found == (op == .textMatch))
    | _, _ => return .boolean false
  | .and | .or => throw (.unsupported op.text)

def applyUnary (op : UnaryOp) (v : Value) : Except EvalError Value :=
  match op with
  | .not => v.truth.map fun b => .boolean !b
  | .neg => v.negate

def lowerName (name : String) : String := String.ofList (name.toList.map Char.toLower)

def applyFunction (name : String) (t : Term) : Except EvalError Value :=
  if name = "str" then .ok (.text t.lexical)
  else if name = "lang" then
    match t with
    | .literal l => .ok (.text ((l.language?.map (·.text)).getD ""))
    | _ => .error (.typeMismatch ("lang(" ++ t.text ++ ")"))
  else if name = "datatype" then
    match t with
    | .literal l => .ok (.term (.iri l.datatype))
    | _ => .error (.typeMismatch ("datatype(" ++ t.text ++ ")"))
  else if name = "isiri" ∨ name = "isuri" then
    .ok (.boolean (match t with | .iri _ => true | _ => false))
  else if name = "isblank" then
    .ok (.boolean (match t with | .blank _ => true | _ => false))
  else if name = "isliteral" then
    .ok (.boolean (match t with | .literal _ => true | _ => false))
  else .error (.unsupported ("function " ++ name))

/-- Whether the argument of `bound` has a value; it must be a variable. -/
def applyBound (table : VariableTable) (arg : Expression) : Except EvalError Value :=
  match arg with
  | .leaf (.slot id) => .ok (.boolean (table.value id).isSome)
  | _ => .error (.typeMismatch ("bound(" ++ arg.text ++ ")"))

/-- The term that an argument is; a leaf is taken as it is, without a look at its
datatype. -/
def argumentTerm (table : VariableTable) (arg : Expression) (value : Evaluation Value) :
    Evaluation (Option Term) :=
  match arg with
  | .leaf (.slot id) => return table.value id
  | .leaf (.term t) => return some t
  | _ => return (← value).toTerm?

/-- Calls a function of one argument; `value` evaluates the argument. -/
def callOne (table : VariableTable) (name : String) (arg : Expression)
    (value : Evaluation Value) : Evaluation Value :=
  if name = "bound" then applyBound table arg
  else do
    match ← argumentTerm table arg value with
    | none => throw (.unbound (name ++ "()"))
    | some t => applyFunction name t

/-- Calls a function; `values` evaluate its arguments. -/
def callFunction (table : VariableTable) (name : String) (args : List Expression)
    (values : List (Evaluation Value)) : Evaluation Value :=
  match args, values with
  | [arg], [value] => callOne table (lowerName name) arg value
  | _, _ =>
    throw (.unsupported (lowerName name ++ "/" ++ toString args.length))

end Evaluation

open Evaluation in
mutual

def Expression.eval (table : VariableTable) : Expression → Evaluation Value
  | .leaf t => leafValue table t
  | .binary .and l r => do
    if ← truthOrFalse (l.eval table) then
      return .boolean (← truthOrFalse (r.eval table))
    else return .boolean false
  | .binary .or l r => do
    if ← truthOrFalse (l.eval table) then return .boolean true
    else return .boolean (← truthOrFalse (r.eval table))
  | .binary op l r => do
    let v ← l.eval table
    let w ← r.eval table
    applyBinary op (isConstant r) v w
  | .unary op e => do
    let v ← e.eval table
    applyUnary op v
  | .call name args => callFunction table name args (Expression.evalArgs table args)

def Expression.evalArgs (table : VariableTable) : List Expression → List (Evaluation Value)
  | [] => []
  | e :: es => e.eval table :: Expression.evalArgs table es

end

/-- Whether a constraint holds; an error counts as false. -/
def Expression.holds (table : VariableTable) (e : Expression) : StateM RegexCache Bool :=
  fun cache =>
    let (result, cache) := (e.eval table).run cache
    match result.bind Value.truth with
    | .ok b => (b, cache)
    | .error _ => (false, cache)

end GraphPattern
