/-
# The text that string operators see of a term

A string operator works on the value of its operand, and the text of a value is printed anew:
of the literal `"007"^^xsd:integer` it sees the text `7`.  `Literal.Printed` says which text
that is, for literals of a numeric datatype and of `xsd:boolean` whose text can be read.  Of
every other term it is the text that the term consists of, which is also what `str` gives
(`text_operators`).  So the two ways to a text agree for the terms that are `Canonical`.
-/
import GraphPattern.Proofs.Constraint.Reading
import GraphPattern.Proofs.Constraint.Value

namespace GraphPattern

/-! ## The text of a term -/

/-- A literal of a numeric datatype or of `xsd:boolean` can be read, and its value is printed
as a text. -/
inductive Literal.Printed (l : Literal) : String → Prop where
  | integer {datatype : Iri} {name : String} {n : Int} (kind : l.kind = .typed datatype)
      (builtin : Value.builtinName? datatype = some name) (known : name ∈ Value.integerTypes)
      (read : Integer.ofText? (Text.trim l.value) = some n) : Printed l (Integer.text n)
  | double {datatype : Iri} {name : String} {x : Float} (kind : l.kind = .typed datatype)
      (builtin : Value.builtinName? datatype = some name) (known : name ∈ Value.doubleTypes)
      (read : Double.ofText? (Text.trim l.value) = some x) : Printed l (Double.text x)
  | boolean {datatype : Iri} {b : Bool} (kind : l.kind = .typed datatype)
      (builtin : Value.builtinName? datatype = some "boolean")
      (read : Value.readBool? (Text.trim l.value) = some b) : Printed l (Literal.boolText b)

/-- The text that string operators see of a term. -/
def Term.shown (t : Term) : String := (Value.ofTerm t).lexical?.getD ""

/-- If the value of a term is printed, the term consists of that text. -/
def Term.Canonical (t : Term) : Prop := ∀ l s, t = .literal l → l.Printed s → s = l.value

namespace Value

theorem writes_of_printed {l : Literal} {s : String} (h : l.Printed s) :
    ∃ v, l.Writes v ∧ v.lexical? = some s := by
  cases h with
  | integer kind builtin known read => exact ⟨_, .integer kind builtin known read, rfl⟩
  | double kind builtin known read => exact ⟨_, .double kind builtin known read, rfl⟩
  | boolean kind builtin read => exact ⟨_, .boolean kind builtin read, rfl⟩

theorem printed_or_stored {l : Literal} {v : Value} (h : l.Writes v) :
    ∃ s, v.lexical? = some s ∧ (l.Printed s ∨ s = l.value) := by
  cases h with
  | integer kind builtin known read => exact ⟨_, rfl, .inl (.integer kind builtin known read)⟩
  | double kind builtin known read => exact ⟨_, rfl, .inl (.double kind builtin known read)⟩
  | boolean kind builtin read => exact ⟨_, rfl, .inl (.boolean kind builtin read)⟩
  | text => exact ⟨_, rfl, .inr rfl⟩

end Value

namespace Term

theorem shown_cases (t : Term) : (Value.ofTerm t).lexical? = some t.shown ∧
    ((∃ l, t = .literal l ∧ l.Printed t.shown) ∨ t.shown = t.lexical) := by
  rcases Value.ofTerm_cases t with own | ⟨l, rfl, writes⟩
  · rw [shown, own]
    exact ⟨rfl, .inr rfl⟩
  · obtain ⟨s, text, printed⟩ := Value.printed_or_stored writes
    rw [shown, text]
    exact ⟨rfl, printed.imp_left fun printed => ⟨l, rfl, printed⟩⟩

theorem shown_of_printed {l : Literal} {s : String} (h : l.Printed s) :
    (Term.literal l).shown = s := by
  obtain ⟨v, writes, text⟩ := Value.writes_of_printed h
  rw [shown, Value.ofTerm_of_writes writes, text]
  rfl

/-- A canonical term shows its own text, and no other term does. -/
theorem shown_eq_lexical_iff (t : Term) : t.shown = t.lexical ↔ t.Canonical := by
  constructor
  · rintro same l s rfl printed
    exact (shown_of_printed printed).symm.trans same
  · intro canonical
    rcases t.shown_cases.2 with ⟨l, rfl, printed⟩ | same
    · exact canonical l _ rfl printed
    · exact same

end Term

/-! ## Operands that show a text -/

namespace Evaluation

variable {v w : Value} {s source : String}

theorem combine_textEq (left : v.lexical? = some s) (right : w.lexical? = some source) :
    combine .textEq v w = .ok (.boolean (decide (s = source))) := by
  simp only [combine, applyBinary, left, right]
  cases decide (s = source) <;> rfl

theorem combine_textNe (left : v.lexical? = some s) (right : w.lexical? = some source) :
    combine .textNe v w = .ok (.boolean (decide (s ≠ source))) := by
  simp only [combine, applyBinary, left, right, decide_not]
  cases decide (s = source) <;> rfl

theorem combine_match {op : BinaryOp} (searches : op = .textMatch ∨ op = .textNoMatch)
    (left : v.lexical? = some s) (right : w.lexical? = some source) :
    combine op v w = (readRegex source).bind fun r =>
      .ok (.boolean (r.isMatch s == (op == .textMatch))) := by
  have found := (gives_hasMatch false source s).bind fun b =>
    gives_pure (Value.boolean (b == (op == .textMatch)))
  have same : combine op v w =
      ((readRegex source).bind fun r => .ok (r.isMatch s)).bind fun b =>
        .ok (.boolean (b == (op == .textMatch))) := by
    rcases searches with rfl | rfl
    · simpa only [combine, applyBinary, left, right] using found.fresh_eq
    · simpa only [combine, applyBinary, left, right] using found.fresh_eq
  rw [same]
  cases readRegex source <;> rfl

end Evaluation

/-- A leaf holds a term: it is that constant, or a slot with that value. -/
inductive PatternTerm.Holds (T : VariableTable) (t : Term) : PatternTerm → Prop where
  | constant : Holds T t (.term t)
  | slot {id : VarId} (bound : T.value id = some t) : Holds T t (.slot id)

namespace Expression

open Evaluation

variable {T : VariableTable} {t : Term} {x : PatternTerm} {e e' : Expression} {s s' : String}

/-- An expression has a value, and that has a text. -/
def Shows (T : VariableTable) (e : Expression) (s : String) : Prop :=
  ∃ v, e.value T = .ok v ∧ v.lexical? = some s

theorem shows_leaf (h : x.Holds T t) : (leaf x).Shows T t.shown := by
  refine ⟨.ofTerm t, ?_, t.shown_cases.1⟩
  cases h with
  | constant => rfl
  | slot bound =>
      rw [value_leaf, leafValue, bound]
      rfl

theorem shows_plain (T : VariableTable) (s : String) :
    (const (.literal (.plain s))).Shows T s := by
  refine ⟨.text s, ?_, rfl⟩
  show Except.ok (Value.ofTerm (.literal (.plain s))) = _
  rw [Value.ofTerm_plain]

theorem shows_str (h : x.Holds T t) {name : String} (str : lowerName name = "str") :
    (call name [leaf x]).Shows T t.lexical := by
  have found : argument T (leaf x) ((leaf x).value T) = .ok (some t) := by
    cases h with
    | constant => rfl
    | slot bound => exact congrArg Except.ok bound
  refine ⟨.text t.lexical, ?_, rfl⟩
  rw [value_call, str, callResult, if_neg (by decide), found]
  rfl

theorem value_textEq (left : e.Shows T s) (right : e'.Shows T s') :
    (binary .textEq e e').value T = .ok (.boolean (decide (s = s'))) := by
  obtain ⟨v, value, text⟩ := left
  obtain ⟨w, value', text'⟩ := right
  rw [value_binary T (by decide) (by decide), value, value']
  exact combine_textEq text text'

theorem value_textNe (left : e.Shows T s) (right : e'.Shows T s') :
    (binary .textNe e e').value T = .ok (.boolean (decide (s ≠ s'))) := by
  obtain ⟨v, value, text⟩ := left
  obtain ⟨w, value', text'⟩ := right
  rw [value_binary T (by decide) (by decide), value, value']
  exact combine_textNe text text'

theorem value_match {op : BinaryOp} (searches : op = .textMatch ∨ op = .textNoMatch)
    (left : e.Shows T s) (right : e'.Shows T s') :
    (binary op e e').value T = (readRegex s').bind fun r =>
      .ok (.boolean (r.isMatch s == (op == .textMatch))) := by
  obtain ⟨v, value, text⟩ := left
  obtain ⟨w, value', text'⟩ := right
  have hand : op ≠ .and := by rcases searches with rfl | rfl <;> decide
  have hor : op ≠ .or := by rcases searches with rfl | rfl <;> decide
  rw [value_binary T hand hor, value, value']
  exact combine_match searches text text'

/-- **What string operators see of a term.**  An operand that holds a term is seen as the text
that the term shows; so it is compared, and so it is searched.  This is the text that its value
prints if that is a number or a truth value, and else its own.  So it is compared with the
result of `str` as the text that the term shows with the one that it consists of, and they are
the same just if the term is canonical. -/
theorem text_operators (h : x.Holds T t) {cache : RegexCache} (reached : cache.Reached) :
    let result := fun e => ((Expression.eval T e).run cache).1
    (∀ e s, e.Shows T s →
      result (binary .textEq (leaf x) e) = .ok (.boolean (decide (t.shown = s))) ∧
      result (binary .textNe (leaf x) e) = .ok (.boolean (decide (t.shown ≠ s))) ∧
      (∀ r, readRegex s = .ok r →
        result (binary .textMatch (leaf x) e) = .ok (.boolean (r.isMatch t.shown)) ∧
        result (binary .textNoMatch (leaf x) e) = .ok (.boolean (!r.isMatch t.shown))) ∧
      ∀ failure, readRegex s = .error failure →
        result (binary .textMatch (leaf x) e) = .error failure ∧
        result (binary .textNoMatch (leaf x) e) = .error failure) ∧
    (∀ s, (const (.literal (.plain s))).Shows T s) ∧
    (∀ name, lowerName name = "str" →
      result (binary .textEq (leaf x) (call name [leaf x])) =
        .ok (.boolean (decide (t.shown = t.lexical)))) ∧
    (∀ l s, t = .literal l → l.Printed s → t.shown = s) ∧
    (t.shown = t.lexical ↔ t.Canonical) := by
  intro result
  have fresh : ∀ e : Expression, result e = e.value T :=
    fun e => eval_of_reached T e reached
  have left : (leaf x).Shows T t.shown := shows_leaf h
  refine ⟨?_, shows_plain T, ?_, ?_, t.shown_eq_lexical_iff⟩
  · intro e s right
    rw [fresh, fresh, fresh, fresh, value_textEq left right, value_textNe left right,
      value_match (.inl rfl) left right, value_match (.inr rfl) left right]
    refine ⟨rfl, rfl, ?_, ?_⟩
    · intro r read
      rw [read]
      cases found : r.isMatch t.shown <;> simp [Except.bind, found]
    · intro failure read
      rw [read]
      exact ⟨rfl, rfl⟩
  · intro name str
    rw [fresh]
    exact value_textEq left (shows_str h str)
  · rintro l s rfl printed
    exact Term.shown_of_printed printed

def leadingZeros : Term := .literal (.typed "007" Iri.xsdInteger)

/-- A table with that literal in its only variable. -/
def leadingZerosTable : VariableTable := (VariableTable.empty.push "x" true).bind ⟨0⟩ leadingZeros

/-- Its value prints `7`, and this is what string operators see. -/
theorem leadingZeros_shown :
    (PatternTerm.slot ⟨0⟩).Holds leadingZerosTable leadingZeros ∧ RegexCache.Reached .empty ∧
      leadingZeros.shown = "7" ∧ ¬ leadingZeros.Canonical ∧
      (((binary .textEq (slot ⟨0⟩) (const (.literal (.plain "7")))).eval leadingZerosTable).run
        .empty).1 = .ok (.boolean true) := by
  have bound : leadingZerosTable.value ⟨0⟩ = some leadingZeros := by decide
  have holds : (PatternTerm.slot ⟨0⟩).Holds leadingZerosTable leadingZeros := .slot bound
  obtain ⟨seen, plain, -, printed, canonical⟩ := text_operators holds .fresh
  have builtin : Value.builtinName? Iri.xsdInteger = some "integer" := by decide
  have read : Integer.ofText? (Text.trim "007") = some 7 := by decide
  have seven : Literal.Printed (.typed "007" Iri.xsdInteger) (Integer.text 7) :=
    .integer rfl builtin (by decide) read
  have shown : leadingZeros.shown = "7" := printed _ _ rfl seven
  refine ⟨holds, .fresh, shown, ?_, ?_⟩
  · intro same
    have stored : "7" = "007" := shown.symm.trans (canonical.mpr same)
    exact absurd stored (by decide)
  · have equal := (seen _ "7" (plain "7")).1
    rwa [shown] at equal

/-- It is not seen as it is stored: neither the text `007` nor the result of `str` is equal to
it, and a search for that text finds nothing. -/
theorem leadingZeros_not_stored :
    leadingZeros.lexical = "007" ∧
      (((binary .textEq (slot ⟨0⟩) (const (.literal (.plain "007")))).holds leadingZerosTable).run
        .empty).1 = false ∧
      (((binary .textEq (slot ⟨0⟩) (call "str" [slot ⟨0⟩])).holds leadingZerosTable).run
        .empty).1 = false ∧
      (((binary .textMatch (slot ⟨0⟩) (const (.literal (.plain "/^007$/")))).holds
        leadingZerosTable).run .empty).1 = false :=
  ⟨rfl, by decide +kernel, by decide +kernel, by decide +kernel⟩

end Expression

end GraphPattern
