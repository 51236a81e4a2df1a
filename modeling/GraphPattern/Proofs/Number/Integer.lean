/-
# Integers are read back from their text

A text is read as an integer only if that fits into 64 bits.  The text of an integer is made
of decimal digits, with a minus sign in front if it is negative.  None of these characters is
white space, so nothing is trimmed from it (`trim_text`); and it is read as the integer it was
made of, as far as that fits (`ofText?_text`).
-/
import GraphPattern.Number.Integer
import GraphPattern.Text
import Mathlib.Data.List.TakeWhile

namespace GraphPattern

namespace Text

variable {cs : List Char}

theorem trimStart_of_not_blank (solid : ∀ c ∈ cs, isBlank c = false) : trimStart cs = cs := by
  rw [trimStart, List.dropWhile_eq_self_iff]
  intro nonempty blank
  rw [solid _ (List.getElem_mem nonempty)] at blank
  cases blank

theorem trim_of_not_blank {s : String} (solid : ∀ c ∈ s.toList, isBlank c = false) :
    trim s = s := by
  have solid' : ∀ c ∈ s.toList.reverse, isBlank c = false :=
    fun c mem => solid c (List.mem_reverse.mp mem)
  rw [trim, trimChars, trimStart_of_not_blank solid, trimStart_of_not_blank solid',
    List.reverse_reverse, String.ofList_toList]

end Text

namespace Integer

/-! ## Numbers that fit -/

theorem inRange_iff {n : Int} : inRange n = true ↔ minValue ≤ n ∧ n ≤ maxValue :=
  decide_eq_true_iff

theorem inRange_of_ofText? {s : String} {n : Int} (h : ofText? s = some n) :
    inRange n = true := by
  obtain ⟨k, -, fits⟩ := Option.bind_eq_some_iff.mp h
  unfold checked at fits
  split at fits
  · next inside =>
      obtain rfl := Option.some.inj fits
      exact inside
  · cases fits

/-! ## The text of a number -/

theorem isBlank_of_isDigit {c : Char} (digit : isDigit c = true) : Text.isBlank c = false := by
  simp only [isDigit, Bool.and_eq_true, decide_eq_true_eq, Char.le_def,
    UInt32.le_iff_toNat_le] at digit
  have bounds : '0'.val.toNat = 0x30 ∧ '9'.val.toNat = 0x39 := by decide
  simp only [Text.isBlank, Char.toNat, Bool.or_eq_false_iff, Bool.and_eq_false_iff,
    decide_eq_false_iff_not, beq_eq_false_iff_ne]
  omega

theorem isDigit_of_mem_toDigits {n : Nat} {c : Char} (mem : c ∈ Nat.toDigits 10 n) :
    isDigit c = true :=
  Nat.isDigit_of_mem_toDigits (by decide) (by decide) mem

theorem trim_text (n : Int) : Text.trim (text n) = text n := by
  refine Text.trim_of_not_blank fun c mem => ?_
  rw [text, String.toList_ofList, digits] at mem
  split at mem
  · rcases List.mem_cons.mp mem with rfl | mem
    · decide
    · exact isBlank_of_isDigit (isDigit_of_mem_toDigits mem)
  · exact isBlank_of_isDigit (isDigit_of_mem_toDigits mem)

theorem readDigits?_toDigits (n : Nat) : readDigits? (Nat.toDigits 10 n) = some n := by
  have nonempty : ¬ (Nat.toDigits 10 n).isEmpty = true := by
    rw [List.isEmpty_iff]
    exact Nat.toDigits_ne_nil
  have all : (Nat.toDigits 10 n).all isDigit = true :=
    List.all_eq_true.mpr fun c mem => isDigit_of_mem_toDigits mem
  rw [readDigits?, if_neg nonempty, if_pos all, Nat.ofDigitChars_ten_toDigits]

theorem readSigned?_toDigits (n : Nat) : readSigned? (Nat.toDigits 10 n) = some (n : Int) := by
  have unsigned : ∀ sign cs, Nat.toDigits 10 n = sign :: cs → isDigit sign = true := by
    intro sign cs same
    exact isDigit_of_mem_toDigits (same ▸ List.mem_cons_self)
  unfold readSigned?
  split
  · next same => exact absurd (unsigned _ _ same) (by decide)
  · next same => exact absurd (unsigned _ _ same) (by decide)
  · rw [readDigits?_toDigits]
    rfl

theorem readSigned?_digits (n : Int) : readSigned? (digits n) = some n := by
  by_cases negative : n < 0
  · rw [digits, if_pos negative, readSigned?, readDigits?_toDigits]
    have opposite : -(n.natAbs : Int) = n := by omega
    exact congrArg some opposite
  · rw [digits, if_neg negative, readSigned?_toDigits]
    have same : (n.natAbs : Int) = n := by omega
    exact congrArg some same

/-- The text of an integer is read as that integer, or not at all if it does not fit. -/
theorem ofText?_text (n : Int) : ofText? (text n) = checked n := by
  rw [ofText?, text, String.toList_ofList, readSigned?_digits, Option.bind_some]

end Integer

end GraphPattern
