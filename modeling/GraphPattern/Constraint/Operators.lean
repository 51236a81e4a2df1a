/-
Comparison and arithmetic of values.
-/
import GraphPattern.Constraint.Value

namespace GraphPattern.Value

def orderOf {α : Type} (lt : α → α → Bool) (a b : α) : Ordering :=
  if lt a b then .lt else if lt b a then .gt else .eq

/-- How two numbers compare; NaN does not. -/
def compareDoubles (x y : Float) : Option Ordering :=
  if x < y then some .lt else if y < x then some .gt else if x == y then some .eq else none

/-- How two values of one kind compare: numbers by size, texts by their code
points, `false` before `true`.  Values of different kinds do not. -/
def compare? : Value → Value → Option Ordering
  | integer m, integer n => some (orderOf (fun a b => decide (a < b)) m n)
  | text s, text t => some (orderOf (fun a b => decide (a < b)) s t)
  | boolean b, boolean c => some (orderOf (fun x y => !x && y) b c)
  | v, w =>
    match v.number?, w.number? with
    | some x, some y => compareDoubles x y
    | _, _ => none

/-- Whether a comparison holds of two values in a given order. -/
def holdsFor (op : BinaryOp) (o : Ordering) : Bool :=
  match op with
  | .eq => o == .eq
  | .ne => o != .eq
  | .lt => o == .lt
  | .le => o != .gt
  | .gt => o == .gt
  | .ge => o != .lt
  | _ => false

/-- Whether a comparison holds.  Terms are the same or not, and have no order. -/
def compare (op : BinaryOp) (v w : Value) : Bool :=
  match v, w with
  | term t, term u =>
    match op with
    | .eq => decide (t = u)
    | .ne => decide (t ≠ u)
    | _ => false
  | _, _ =>
    match compare? v w with
    | some o => holdsFor op o
    | none => false

def operation (op : BinaryOp) (v w : Value) : String :=
  v.described ++ " " ++ op.text ++ " " ++ w.described

/-- The exact result of an operation on integers; there is no remainder by zero. -/
def integerResult? (op : BinaryOp) (m n : Int) : Option Int :=
  match op with
  | .add => some (m + n)
  | .sub => some (m - n)
  | .mul => some (m * n)
  | .rem => if n = 0 then none else some (Int.tmod m n)
  | _ => none

/-- Whether a remainder has a quotient that fits.  The smallest number divided by
`-1` has none. -/
def quotientFits (op : BinaryOp) (m n : Int) : Bool :=
  op != .rem || Integer.inRange (Int.tdiv m n)

/-- Arithmetic on integers: the exact result, if it fits; a quotient is a double. -/
def integerArithmetic (op : BinaryOp) (m n : Int) : Except EvalError Value :=
  let failure : Except EvalError Value :=
    .error (.arithmetic (operation op (integer m) (integer n)))
  match op with
  | .div => if n = 0 then failure else .ok (double (Binary64.ofInt m / Binary64.ofInt n))
  | _ =>
    match integerResult? op m n with
    | some k => if Integer.inRange k && quotientFits op m n then .ok (integer k) else failure
    | none => failure

/-- Arithmetic on doubles; division by zero gives an infinity or NaN. -/
def doubleArithmetic (op : BinaryOp) (x y : Float) : Float :=
  match op with
  | .add => x + y
  | .sub => x - y
  | .mul => x * y
  | .div => x / y
  | _ => Binary64.remainder x y

/-- Arithmetic on two values: exact on integers, on doubles as soon as one of them is. -/
def arithmetic (op : BinaryOp) (v w : Value) : Except EvalError Value :=
  match v, w with
  | integer m, integer n => integerArithmetic op m n
  | _, _ =>
    match v.number?, w.number? with
    | some x, some y => .ok (double (doubleArithmetic op x y))
    | _, _ => .error (.typeMismatch (operation op v w))

def negate : Value → Except EvalError Value
  | integer n =>
    if Integer.inRange (-n) then .ok (integer (-n))
    else .error (.arithmetic ("-" ++ Integer.text n))
  | double x => .ok (double (-x))
  | v => .error (.typeMismatch ("cannot negate " ++ v.described))

end GraphPattern.Value
