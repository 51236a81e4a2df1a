/-
# Arithmetic on integers is exact or an error

`Exact` is the arithmetic of the whole numbers on trees of `+`, `-`, `*`, `%` and unary
minus, with the demand that every result on the way fits into 64 bits.  Which remainders
there are is left open by it.  For the evaluator (`Divides`) there are all but those by zero
and one more: the smallest number has no remainder by `-1`.  It would be zero, but the
quotient that goes with it is one too large for 64 bits, and the evaluator takes the two
together (`leastRemainder_fails`).

With these remainders the evaluation of a tree is the number that `Exact` says, and an
arithmetic error if there is none (`eval_eq_integer_iff_exact`).  Nothing wraps around, and
nothing turns into a double.
-/
import GraphPattern.Proofs.Constraint.Reading
import GraphPattern.Proofs.Constraint.Value

namespace GraphPattern

/-! ## Numbers that fit -/

namespace Integer

/-- Of the quotients of a number that fits only that of the smallest one by `-1` does not:
but for `1` and `-1` a quotient is at most half as large as the number. -/
theorem inRange_tdiv {m n : Int} (fits : inRange m = true) (nonzero : n ≠ 0)
    (least : ¬ (m = minValue ∧ n = -1)) : inRange (m.tdiv n) = true := by
  rw [inRange_iff] at fits ⊢
  unfold minValue maxValue at *
  by_cases one : n = 1
  · rw [one, Int.tdiv_one]
    exact fits
  by_cases negOne : n = -1
  · rw [negOne, Int.tdiv_neg, Int.tdiv_one]
    omega
  have half : (m.tdiv n).natAbs ≤ m.natAbs / 2 := by
    rw [Int.natAbs_tdiv]
    exact Nat.div_le_div_left (by omega) (by omega)
  omega

end Integer

namespace Value

theorem inRange_of_ofTerm {t : Term} {n : Int} (h : ofTerm t = integer n) :
    Integer.inRange n = true := by
  rcases ofTerm_cases t with own | ⟨l, -, writes⟩
  · rw [own] at h
    cases h
  · rw [h] at writes
    cases writes with
    | integer _ _ _ read => exact Integer.inRange_of_ofText? read

end Value

namespace Evaluation

theorem inRange_of_leafValue {T : VariableTable} {t : PatternTerm} {n : Int}
    (h : leafValue T t = .ok (.integer n)) : Integer.inRange n = true := by
  cases t with
  | term u => exact Value.inRange_of_ofTerm (Except.ok.inj h)
  | slot id =>
      have read : ((T.value id).map Value.ofTerm).getD .unbound = .integer n := Except.ok.inj h
      cases bound : T.value id with
      | none =>
          rw [bound] at read
          cases read
      | some u =>
          rw [bound] at read
          exact Value.inRange_of_ofTerm read
  | _ => cases h

end Evaluation

/-! ## Arithmetic without a limit -/

/-- The operations that lead from whole numbers to whole numbers. -/
def BinaryOp.whole : List BinaryOp := [add, sub, mul, rem]

/-- What an operation makes of two whole numbers.  Remainders are truncated toward zero;
`Rest m n` says that there is one of `m` by `n`. -/
inductive Operates (Rest : Int → Int → Prop) : BinaryOp → Int → Int → Int → Prop where
  | add (m n : Int) : Operates Rest .add m n (m + n)
  | sub (m n : Int) : Operates Rest .sub m n (m - n)
  | mul (m n : Int) : Operates Rest .mul m n (m * n)
  | rem {m n : Int} (h : Rest m n) : Operates Rest .rem m n (m.tmod n)

theorem Operates.mem_whole {Rest : Int → Int → Prop} {op : BinaryOp} {m n k : Int}
    (h : Operates Rest op m n k) : op ∈ BinaryOp.whole := by
  cases h <;> decide

/-- There is a remainder by every number but zero. -/
def Nonzero (_ n : Int) : Prop := n ≠ 0

/-- There is a remainder by every number but zero, except that of the smallest number by
`-1`. -/
def Divides (m n : Int) : Prop := n ≠ 0 ∧ ¬ (m = Integer.minValue ∧ n = -1)

namespace Expression

open Evaluation

/-- Trees of `+`, `-`, `*`, `%` and unary minus over leaves whose value is an integer. -/
inductive IntegerTree (T : VariableTable) : Expression → Prop where
  | leaf {t : PatternTerm} {n : Int} (h : leafValue T t = .ok (.integer n)) :
      IntegerTree T (leaf t)
  | binary {op : BinaryOp} {l r : Expression} (h : op ∈ BinaryOp.whole)
      (hl : IntegerTree T l) (hr : IntegerTree T r) : IntegerTree T (binary op l r)
  | neg {e : Expression} (h : IntegerTree T e) : IntegerTree T (unary .neg e)

/-- A tree is a number over the whole numbers, and the result of every operation in it
fits. -/
inductive Exact (Rest : Int → Int → Prop) (T : VariableTable) : Expression → Int → Prop where
  | leaf {t : PatternTerm} {n : Int} (h : leafValue T t = .ok (.integer n)) :
      Exact Rest T (leaf t) n
  | binary {op : BinaryOp} {l r : Expression} {m n k : Int} (hl : Exact Rest T l m)
      (hr : Exact Rest T r n) (h : Operates Rest op m n k) (fits : Integer.inRange k = true) :
      Exact Rest T (binary op l r) k
  | neg {e : Expression} {n : Int} (h : Exact Rest T e n)
      (fits : Integer.inRange (-n) = true) : Exact Rest T (unary .neg e) (-n)

end Expression

/-! ## One operation -/

namespace Value

variable {op : BinaryOp} {m n k : Int}

theorem arithmetic_of_operates (hm : Integer.inRange m = true) (h : Operates Divides op m n k)
    (fits : Integer.inRange k = true) :
    arithmetic op (integer m) (integer n) = .ok (integer k) := by
  cases h with
  | rem divides =>
      obtain ⟨nonzero, least⟩ := divides
      have quotient := Integer.inRange_tdiv hm nonzero least
      simp [arithmetic, integerArithmetic, integerResult?, quotientFits, nonzero, fits, quotient]
  | _ => simp [arithmetic, integerArithmetic, integerResult?, quotientFits, fits]

theorem arithmetic_of_not_operates (h : op ∈ BinaryOp.whole)
    (none : ∀ k, Operates Divides op m n k → Integer.inRange k = false) :
    arithmetic op (integer m) (integer n) =
      .error (.arithmetic (operation op (integer m) (integer n))) := by
  simp only [BinaryOp.whole, List.mem_cons, List.not_mem_nil, or_false] at h
  rcases h with rfl | rfl | rfl | rfl
  · simp [arithmetic, integerArithmetic, integerResult?, none _ (.add m n)]
  · simp [arithmetic, integerArithmetic, integerResult?, none _ (.sub m n)]
  · simp [arithmetic, integerArithmetic, integerResult?, none _ (.mul m n)]
  · by_cases zero : n = 0
    · simp [arithmetic, integerArithmetic, integerResult?, zero]
    by_cases least : m = Integer.minValue ∧ n = -1
    · obtain ⟨rfl, rfl⟩ := least
      rfl
    · simp [arithmetic, integerArithmetic, integerResult?, zero, none _ (.rem ⟨zero, least⟩)]

theorem operates_or_error (h : op ∈ BinaryOp.whole) (m n : Int) :
    (∃ k, Operates Divides op m n k ∧ Integer.inRange k = true) ∨
      arithmetic op (integer m) (integer n) =
        .error (.arithmetic (operation op (integer m) (integer n))) := by
  by_cases result : ∃ k, Operates Divides op m n k ∧ Integer.inRange k = true
  · exact .inl result
  · right
    apply arithmetic_of_not_operates h
    intro k operates
    apply Bool.eq_false_iff.mpr
    intro fits
    exact result ⟨k, operates, fits⟩

end Value

/-! ## Trees -/

namespace Expression

open Evaluation

variable {T : VariableTable} {e : Expression} {n : Int}

theorem Exact.inRange {Rest : Int → Int → Prop} (h : Exact Rest T e n) :
    Integer.inRange n = true := by
  cases h with
  | leaf h => exact inRange_of_leafValue h
  | binary _ _ _ fits => exact fits
  | neg _ fits => exact fits

theorem value_arithmetic {op : BinaryOp} (h : op ∈ BinaryOp.whole)
    (l r : Expression) : (binary op l r).value T =
      (l.value T).bind fun v => (r.value T).bind fun w => Value.arithmetic op v w := by
  simp only [BinaryOp.whole, List.mem_cons, List.not_mem_nil, or_false] at h
  rcases h with rfl | rfl | rfl | rfl <;> exact value_binary T (by decide) (by decide) l r

theorem Exact.value_eq (h : Exact Divides T e n) : e.value T = .ok (.integer n) := by
  induction h with
  | leaf h => exact h
  | binary hl _ h fits ihl ihr =>
      rw [value_arithmetic h.mem_whole, ihl, ihr]
      exact Value.arithmetic_of_operates hl.inRange h fits
  | neg _ fits ih =>
      rw [value_unary, ih]
      exact if_pos fits

theorem IntegerTree.exact_or_error (h : IntegerTree T e) :
    (∃ n, Exact Divides T e n) ∨ ∃ detail, e.value T = .error (.arithmetic detail) := by
  induction h with
  | leaf h => exact .inl ⟨_, .leaf h⟩
  | binary mem _ _ ihl ihr =>
      rw [value_arithmetic mem]
      -- the first operand that fails gives its error, and the operator fails only after both
      rcases ihl with ⟨m, hm⟩ | ⟨detail, failed⟩
      · rcases ihr with ⟨n, hn⟩ | ⟨detail, failed⟩
        · rcases Value.operates_or_error mem m n with ⟨k, operates, fits⟩ | failed
          · exact .inl ⟨k, .binary hm hn operates fits⟩
          · right
            rw [hm.value_eq, hn.value_eq]
            exact ⟨_, failed⟩
        · right
          rw [hm.value_eq, failed]
          exact ⟨detail, rfl⟩
      · right
        rw [failed]
        exact ⟨detail, rfl⟩
  | neg _ ih =>
      rw [value_unary]
      rcases ih with ⟨n, hn⟩ | ⟨detail, failed⟩
      · by_cases fits : Integer.inRange (-n) = true
        · exact .inl ⟨-n, .neg hn fits⟩
        · right
          rw [hn.value_eq]
          exact ⟨_, if_neg fits⟩
      · right
        rw [failed]
        exact ⟨detail, rfl⟩

/-- **Integer arithmetic is exact or an error.**  A tree evaluates to an integer exactly if
it is that number over the whole numbers, every result on the way fits, and no remainder in
it is by zero or of the smallest number by `-1`; and to an arithmetic error otherwise. -/
theorem eval_eq_integer_iff_exact (tree : IntegerTree T e) {cache : RegexCache}
    (reached : cache.Reached) :
    (∀ n, ((e.eval T).run cache).1 = .ok (.integer n) ↔ Exact Divides T e n) ∧
      ((∀ n, ¬ Exact Divides T e n) →
        ∃ detail, ((e.eval T).run cache).1 = .error (.arithmetic detail)) := by
  rw [eval_of_reached T e reached]
  constructor
  · intro n
    constructor
    · intro value
      rcases tree.exact_or_error with ⟨k, hk⟩ | ⟨detail, failed⟩
      · rw [hk.value_eq] at value
        obtain rfl : k = n := Value.integer.inj (Except.ok.inj value)
        exact hk
      · rw [failed] at value
        cases value
    · exact Exact.value_eq
  · intro inexact
    rcases tree.exact_or_error with ⟨k, hk⟩ | failed
    · exact absurd hk (inexact k)
    · exact failed

def number (n : Int) : Expression := const (.literal (.ofInt n))

/-- `(-?x - 1) % 10`: with the largest number for `?x` the smallest one stands before `%`. -/
def lastDigit : Expression :=
  binary .rem (binary .sub (unary .neg (slot ⟨0⟩)) (number 1)) (number 10)

/-- A variable that has the largest number for its value. -/
def largestBound : VariableTable :=
  (VariableTable.empty.push "x" true).bind ⟨0⟩ (.literal (.ofInt 9223372036854775807))

theorem lastDigit_exact :
    IntegerTree largestBound lastDigit ∧ RegexCache.Reached .empty ∧
      Exact Divides largestBound lastDigit (-8) ∧
      ((lastDigit.eval largestBound).run .empty).1 = .ok (.integer (-8)) := by
  have largest : leafValue largestBound (.slot ⟨0⟩) = .ok (.integer 9223372036854775807) := rfl
  have one : leafValue largestBound (.term (.literal (.ofInt 1))) = .ok (.integer 1) := rfl
  have ten : leafValue largestBound (.term (.literal (.ofInt 10))) = .ok (.integer 10) := rfl
  have tree : IntegerTree largestBound lastDigit :=
    .binary (by decide) (.binary (by decide) (.neg (.leaf largest)) (.leaf one)) (.leaf ten)
  have least : Exact Divides largestBound
      (binary .sub (unary .neg (slot ⟨0⟩)) (number 1)) Integer.minValue :=
    .binary (.neg (.leaf largest) rfl) (.leaf one) (.sub _ _) rfl
  have exact : Exact Divides largestBound lastDigit (-8) :=
    .binary least (.leaf ten) (.rem ⟨by decide, by decide⟩) rfl
  exact ⟨tree, .fresh, exact, ((eval_eq_integer_iff_exact tree .fresh).1 _).mpr exact⟩

/-- The remainder of the smallest number by `-1`. -/
def leastRemainder : Expression := binary .rem (number Integer.minValue) (number (-1))

/-- There would be a remainder by `-1`, zero, but the evaluation fails. -/
theorem leastRemainder_fails :
    IntegerTree .empty leastRemainder ∧ Exact Nonzero .empty leastRemainder 0 ∧
      ((leastRemainder.eval .empty).run .empty).1 =
        .error (.arithmetic "Integer(-9223372036854775808) % Integer(-1)") := by
  have least : leafValue .empty (.term (.literal (.ofInt Integer.minValue))) =
      .ok (.integer Integer.minValue) := rfl
  have negOne : leafValue .empty (.term (.literal (.ofInt (-1)))) = .ok (.integer (-1)) := rfl
  have nonzero : Nonzero Integer.minValue (-1) := by unfold Nonzero; decide
  exact ⟨.binary (by decide) (.leaf least) (.leaf negOne),
    .binary (.leaf least) (.leaf negOne) (.rem nonzero) rfl, rfl⟩

end Expression

end GraphPattern
