/-
Constraints: expressions over the variables of a query.
-/
import GraphPattern.Query.Pattern

namespace GraphPattern

/-- Operators between two operands. -/
inductive BinaryOp where
  | and | or
  | eq | ne | lt | le | gt | ge
  | add | sub | mul | div | rem
  | textEq | textNe
  | textMatch | textNoMatch
deriving DecidableEq, Repr

namespace BinaryOp

def signs : List (BinaryOp × String) :=
  [(and, "&&"), (or, "||"), (eq, "=="), (ne, "!="), (lt, "<"), (le, "<="), (gt, ">"),
    (ge, ">="), (add, "+"), (sub, "-"), (mul, "*"), (div, "/"), (rem, "%"), (textEq, "eq"),
    (textNe, "ne"), (textMatch, "=~"), (textNoMatch, "!~")]

def text : BinaryOp → String
  | and => "&&"
  | or => "||"
  | eq => "=="
  | ne => "!="
  | lt => "<"
  | le => "<="
  | gt => ">"
  | ge => ">="
  | add => "+"
  | sub => "-"
  | mul => "*"
  | div => "/"
  | rem => "%"
  | textEq => "eq"
  | textNe => "ne"
  | textMatch => "=~"
  | textNoMatch => "!~"

def ofText? (sign : String) : Option BinaryOp :=
  (signs.find? fun entry => entry.2 == sign).map (·.1)

end BinaryOp

/-- Operators before one operand. -/
inductive UnaryOp where
  | not
  | neg
deriving DecidableEq, Repr

namespace UnaryOp

def text : UnaryOp → String
  | not => "!"
  | neg => "-"

def ofText? (sign : String) : Option UnaryOp :=
  if sign = "!" then some not else if sign = "-" then some neg else none

end UnaryOp

/-- A constraint. -/
inductive Expression where
  | leaf (term : PatternTerm)
  | binary (op : BinaryOp) (left right : Expression)
  | unary (op : UnaryOp) (operand : Expression)
  | call (name : String) (args : List Expression)

namespace Expression

def const (t : Term) : Expression := leaf (.term t)

def slot (id : VarId) : Expression := leaf (.slot id)

def both (left right : Expression) : Expression := binary .and left right

mutual

def text : Expression → String
  | leaf t => t.text
  | binary op l r => "(" ++ l.text ++ " " ++ op.text ++ " " ++ r.text ++ ")"
  | unary op e => op.text ++ e.text
  | call name args => name ++ "(" ++ argsText args ++ ")"

def argsText : List Expression → String
  | [] => ""
  | [e] => e.text
  | e :: es => e.text ++ ", " ++ argsText es

end

mutual

/-- The leaves from left to right. -/
def leaves : Expression → List PatternTerm
  | leaf t => [t]
  | binary _ l r => l.leaves ++ r.leaves
  | unary _ e => e.leaves
  | call _ args => argsLeaves args

def argsLeaves : List Expression → List PatternTerm
  | [] => []
  | e :: es => e.leaves ++ argsLeaves es

end

end Expression

end GraphPattern
