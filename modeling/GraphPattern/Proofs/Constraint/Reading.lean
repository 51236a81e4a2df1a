/-
# What a term is read as, and what it is written as again

A literal writes a value if its datatype is one of those that have values and its text can be
read, as an integer, a number, a truth value or a text (`Literal.Writes`).  The value of a
term is the one that it writes, and else the term itself (`ofTerm_cases`).

The term that stands for a value is read as that value again: of all spellings of an integer
it is the one without blanks, a plus sign or leading zeros, in the datatype `xsd:integer`.
What writes no value is not changed, so that a literal that could not be read cannot be read
afterwards either (`values_are_normal`).  Nothing is said of doubles.
-/
import GraphPattern.Constraint.Value
import GraphPattern.Proofs.Number.Integer

namespace GraphPattern

/-- A literal writes a value.  The datatype is known by its name in the namespace of the
built-in ones; the text of numbers and truth values may have blanks around it. -/
inductive Literal.Writes (l : Literal) : Value → Prop where
  | integer {datatype : Iri} {name : String} {n : Int} (kind : l.kind = .typed datatype)
      (builtin : Value.builtinName? datatype = some name) (known : name ∈ Value.integerTypes)
      (read : Integer.ofText? (Text.trim l.value) = some n) : Writes l (.integer n)
  | double {datatype : Iri} {name : String} {x : Float} (kind : l.kind = .typed datatype)
      (builtin : Value.builtinName? datatype = some name) (known : name ∈ Value.doubleTypes)
      (read : Double.ofText? (Text.trim l.value) = some x) : Writes l (.double x)
  | boolean {datatype : Iri} {b : Bool} (kind : l.kind = .typed datatype)
      (builtin : Value.builtinName? datatype = some "boolean")
      (read : Value.readBool? (Text.trim l.value) = some b) : Writes l (.boolean b)
  | text {datatype : Iri} (kind : l.kind = .typed datatype)
      (builtin : Value.builtinName? datatype = some "string") : Writes l (.text l.value)

namespace Value

variable {l : Literal} {v : Value}

theorem ofLiteral?_typed {datatype : Iri} {name : String} (kind : l.kind = .typed datatype)
    (builtin : builtinName? datatype = some name) :
    ofLiteral? l = readBuiltin? name l.value := by
  rw [ofLiteral?, kind]
  show (builtinName? datatype).bind _ = _
  rw [builtin]
  rfl

theorem ofLiteral?_of_writes (h : l.Writes v) : ofLiteral? l = some v := by
  cases h with
  | integer kind builtin known read =>
      rw [ofLiteral?_typed kind builtin, readBuiltin?, if_pos known, read]
      rfl
  | double kind builtin known read =>
      have other : ∀ name ∈ doubleTypes, name ∉ integerTypes := by decide
      rw [ofLiteral?_typed kind builtin, readBuiltin?, if_neg (other _ known), if_pos known, read]
      rfl
  | boolean kind builtin read =>
      rw [ofLiteral?_typed kind builtin, readBuiltin?, if_neg (by decide), if_neg (by decide),
        if_pos rfl, read]
      rfl
  | text kind builtin =>
      rw [ofLiteral?_typed kind builtin]
      rfl

theorem writes_of_ofLiteral? (h : ofLiteral? l = some v) : l.Writes v := by
  cases kind : l.kind with
  | tagged tag =>
      rw [ofLiteral?, kind] at h
      cases h
  | typed datatype =>
      cases builtin : builtinName? datatype with
      | none =>
          rw [ofLiteral?, kind] at h
          simp [builtin] at h
      | some name =>
          rw [ofLiteral?_typed kind builtin, readBuiltin?] at h
          split at h
          · next known =>
              obtain ⟨n, read, rfl⟩ := Option.map_eq_some_iff.mp h
              exact .integer kind builtin known read
          split at h
          · next known =>
              obtain ⟨x, read, rfl⟩ := Option.map_eq_some_iff.mp h
              exact .double kind builtin known read
          split at h
          · next known =>
              subst known
              obtain ⟨b, read, rfl⟩ := Option.map_eq_some_iff.mp h
              exact .boolean kind builtin read
          split at h
          · next known =>
              subst known
              cases h
              exact .text kind builtin
          · cases h

theorem ofTerm_of_writes (h : l.Writes v) : ofTerm (.literal l) = v := by
  rw [ofTerm, ofLiteral?_of_writes h]
  rfl

/-- The value of a term is the term, unless it is a literal that writes one. -/
theorem ofTerm_cases (t : Term) :
    ofTerm t = .term t ∨ ∃ l, t = .literal l ∧ l.Writes (ofTerm t) := by
  cases t with
  | iri i => exact .inl rfl
  | blank b => exact .inl rfl
  | literal l =>
      cases read : ofLiteral? l with
      | none =>
          rw [ofTerm, read]
          exact .inl rfl
      | some v =>
          have writes := writes_of_ofLiteral? read
          refine .inr ⟨l, rfl, ?_⟩
          rw [ofTerm_of_writes writes]
          exact writes

/-! ## Literals that are made of a value -/

theorem text_of_builtinName? {datatype : Iri} {name : String}
    (h : builtinName? datatype = some name) : datatype.text = Iri.xsd ++ name := by
  unfold builtinName? at h
  split at h
  · next front =>
      obtain rfl := Option.some.inj h
      obtain ⟨rest, whole⟩ := List.isPrefixOf_iff_prefix.mp front
      rw [← String.toList_inj, String.toList_append, String.toList_ofList, ← whole,
        List.drop_left]
  · cases h

theorem ofTerm_ofInt {n : Int} (fits : Integer.inRange n = true) :
    ofTerm (.literal (.ofInt n)) = .integer n := by
  have builtin : builtinName? Iri.xsdInteger = some "integer" := by decide
  have read : Integer.ofText? (Text.trim (Integer.text n)) = some n := by
    rw [Integer.trim_text, Integer.ofText?_text, Integer.checked, if_pos fits]
  exact ofTerm_of_writes (.integer rfl builtin (by decide) read)

theorem ofTerm_ofBool (b : Bool) : ofTerm (.literal (.ofBool b)) = .boolean b := by
  have builtin : builtinName? Iri.xsdBoolean = some "boolean" := by decide
  have read : readBool? (Text.trim (Literal.boolText b)) = some b := by
    cases b <;> decide
  exact ofTerm_of_writes (.boolean rfl builtin read)

theorem ofTerm_plain (s : String) : ofTerm (.literal (.plain s)) = .text s := by
  have builtin : builtinName? Iri.xsdString = some "string" := by decide
  exact ofTerm_of_writes (.text rfl builtin)

theorem eq_plain_of_writes {s : String} (h : l.Writes (.text s)) : l = .plain s := by
  cases h with
  | @text datatype kind builtin =>
      have text : datatype.text = Iri.xsdString.text := text_of_builtinName? builtin
      have same : datatype = Iri.xsdString := by
        obtain ⟨_, valid⟩ := datatype
        obtain rfl := text
        rfl
      obtain ⟨value, _⟩ := l
      obtain rfl := kind
      rw [same]
      rfl

/-- The term that stands for what a literal writes is a literal that writes it again. -/
theorem toTerm?_of_writes (h : l.Writes v) (other : ∀ x, v ≠ .double x) :
    ∃ t, v.toTerm? = some t ∧ ofTerm t = v := by
  cases h with
  | integer _ _ _ read => exact ⟨_, rfl, ofTerm_ofInt (Integer.inRange_of_ofText? read)⟩
  | @double _ _ x => exact absurd rfl (other x)
  | @boolean _ b => exact ⟨_, rfl, ofTerm_ofBool b⟩
  | text => exact ⟨_, rfl, ofTerm_plain l.value⟩

/-- **Values are a normal form of terms.**  If the value of a term is not a double, there is a
term that stands for it, and that has this value again.  For a term that is its own value, and
for one whose value is a text, it is the term itself. -/
theorem values_are_normal (t : Term) (other : ∀ x, ofTerm t ≠ .double x) :
    ∃ t', (ofTerm t).toTerm? = some t' ∧ ofTerm t' = ofTerm t ∧
      ((∃ u, ofTerm t = .term u) ∨ (∃ s, ofTerm t = .text s) → t' = t) := by
  rcases ofTerm_cases t with own | ⟨l, rfl, writes⟩
  · rw [own]
    exact ⟨t, rfl, own, fun _ => rfl⟩
  · obtain ⟨t', written, again⟩ := toTerm?_of_writes writes other
    refine ⟨t', written, again, ?_⟩
    rintro (⟨u, unread⟩ | ⟨s, text⟩)
    · -- no literal writes a term
      rw [unread] at writes
      cases writes
    · rw [text] at writes written
      obtain rfl := eq_plain_of_writes writes
      exact (Option.some.inj written).symm

/-- The literal `" +007\t"^^xsd:byte`: an integer with blanks, a sign and leading zeros. -/
def paddedByte : Term :=
  .literal (.typed " +007\t" ⟨"http://www.w3.org/2001/XMLSchema#byte", by decide +kernel⟩)

/-- The literal `"9223372036854775808"^^xsd:long`: one more than fits into 64 bits. -/
def beyondLong : Term :=
  .literal (.typed "9223372036854775808"
    ⟨"http://www.w3.org/2001/XMLSchema#long", by decide +kernel⟩)

/-- The first is written as `7` and read as the same number again; the second, which is not
read as a number, stays what it is. -/
theorem paddedByte_normal :
    (∀ x, ofTerm paddedByte ≠ .double x) ∧ (∀ x, ofTerm beyondLong ≠ .double x) ∧
      ofTerm paddedByte = .integer 7 ∧
      (ofTerm paddedByte).toTerm? = some (.literal (.typed "7" Iri.xsdInteger)) ∧
      ofTerm (.literal (.typed "7" Iri.xsdInteger)) = .integer 7 ∧
      (ofTerm beyondLong).toTerm? = some beyondLong := by
  have seven : ofTerm paddedByte = .integer 7 := rfl
  have own : ofTerm beyondLong = .term beyondLong := rfl
  have other : ∀ x, ofTerm paddedByte ≠ .double x := by
    intro x same
    rw [seven] at same
    cases same
  have other' : ∀ x, ofTerm beyondLong ≠ .double x := by
    intro x same
    rw [own] at same
    cases same
  obtain ⟨t, written, again, -⟩ := values_are_normal paddedByte other
  obtain ⟨u, written', -, unchanged⟩ := values_are_normal beyondLong other'
  have text : (ofTerm paddedByte).toTerm? = some (.literal (.typed "7" Iri.xsdInteger)) := rfl
  obtain rfl := Option.some.inj (text.symm.trans written)
  obtain rfl := unchanged (.inl ⟨_, own⟩)
  exact ⟨other, other', seven, text, again.trans seven, written'⟩

end Value

end GraphPattern
