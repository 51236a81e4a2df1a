/-
# The N-Triples text of a term is read back

Behind the opening quote of a literal each character of its text stands for itself or is
escaped, and no quote stands there that is not escaped; so the text ends at the first quote
that is met (`Literal.readQuoted_escaped`), whatever it holds.  The first character tells the
kinds of terms apart (`Term.ofNtriples?_ntriples`).  Controls are escaped and occur nowhere
else, hence neither a tab nor the end of a line stands in the text of a term.
-/
import GraphPattern.Proofs.Rdf.Term
import GraphPattern.Rdf.Written

namespace GraphPattern

namespace Literal

/-! ## Escapes -/

def hexValue (c : Char) : Nat := if c.toNat < 0x41 then c.toNat - 0x30 else c.toNat - 0x41 + 10

theorem hexDigit_spec : ∀ n < 16, hexValue (hexDigit n) = n ∧ Visible (hexDigit n) := by
  decide

/-- The character that a letter behind a backslash stands for. -/
def unescapedChar (c : Char) : Char :=
  if c = 'b' then '\x08'
  else if c = 't' then '\t'
  else if c = 'n' then '\n'
  else if c = 'f' then '\x0c'
  else if c = 'r' then '\r'
  else c

def ofHexDigits (a b c d : Char) : Char :=
  .ofNat (((hexValue a * 16 + hexValue b) * 16 + hexValue c) * 16 + hexValue d)

/-- Reads the text of a literal up to the quote that ends it. -/
def readQuoted : List Char → Option (List Char × List Char)
  | [] => none
  | '"' :: rest => some ([], rest)
  | '\\' :: 'u' :: a :: b :: c :: d :: rest =>
    (readQuoted rest).map fun read => (ofHexDigits a b c d :: read.1, read.2)
  | '\\' :: c :: rest => (readQuoted rest).map fun read => (unescapedChar c :: read.1, read.2)
  | c :: rest => (readQuoted rest).map fun read => (c :: read.1, read.2)

variable {c : Char}

/-- A character is written behind a backslash as a letter or as its number, or it stands for
itself. -/
theorem escapedChar_cases (c : Char) :
    (∃ d, escapedChar c = ['\\', d] ∧ d ≠ 'u' ∧ Visible d ∧ unescapedChar d = c) ∨
      (escapedChar c = controlEscape c ∧ c.toNat < 0x10000) ∨
      (escapedChar c = [c] ∧ c ≠ '"' ∧ c ≠ '\\' ∧ 0x20 ≤ c.toNat) := by
  by_cases lettered : c ∈ ['\x08', '\t', '\n', '\x0c', '\r', '"', '\\']
  · simp only [List.mem_cons, List.not_mem_nil, or_false] at lettered
    refine .inl ?_
    rcases lettered with rfl | rfl | rfl | rfl | rfl | rfl | rfl
    · exact ⟨'b', by decide⟩
    · exact ⟨'t', by decide⟩
    · exact ⟨'n', by decide⟩
    · exact ⟨'f', by decide⟩
    · exact ⟨'r', by decide⟩
    · exact ⟨'"', by decide⟩
    · exact ⟨'\\', by decide⟩
  · simp only [List.mem_cons, List.not_mem_nil, or_false, not_or] at lettered
    obtain ⟨b, t, n, f, r, quote, backslash⟩ := lettered
    by_cases control : c.toNat < 0x20 ∨ c.toNat = 0x7F
    · exact .inr (.inl ⟨by simp [escapedChar, b, t, n, f, r, quote, backslash, control],
        by omega⟩)
    · exact .inr (.inr ⟨by simp [escapedChar, b, t, n, f, r, quote, backslash, control],
        quote, backslash, by omega⟩)

theorem ofHexDigits_hexDigit (low : c.toNat < 0x10000) :
    ofHexDigits (hexDigit (c.toNat / 4096 % 16)) (hexDigit (c.toNat / 256 % 16))
      (hexDigit (c.toNat / 16 % 16)) (hexDigit (c.toNat % 16)) = c := by
  have digit (n : Nat) : hexValue (hexDigit (n % 16)) = n % 16 :=
    (hexDigit_spec _ (Nat.mod_lt n (by decide))).1
  have number : ((c.toNat / 4096 % 16 * 16 + c.toNat / 256 % 16) * 16 + c.toNat / 16 % 16) * 16 +
      c.toNat % 16 = c.toNat := by
    omega
  rw [ofHexDigits, digit, digit, digit, digit, number, Char.ofNat_toNat]

theorem readQuoted_escapedChar (c : Char) (rest : List Char) :
    readQuoted (escapedChar c ++ rest) =
      (readQuoted rest).map fun read => (c :: read.1, read.2) := by
  rcases escapedChar_cases c with ⟨d, written, other, -, letter⟩ | ⟨written, low⟩ |
    ⟨written, quote, backslash, -⟩
  · rw [written, ← letter]
    simp [readQuoted, other]
  · rw [written]
    simp only [controlEscape, List.cons_append, List.nil_append, readQuoted,
      ofHexDigits_hexDigit low]
  · rw [written]
    simp [readQuoted, backslash]

/-- **The escaped text of a literal ends at the first quote that is met.** -/
theorem readQuoted_escaped (cs rest : List Char) :
    readQuoted (cs.flatMap escapedChar ++ '"' :: rest) = some (cs, rest) := by
  induction cs with
  | nil => rfl
  | cons c cs ih =>
      rw [List.flatMap_cons, List.append_assoc, readQuoted_escapedChar, ih]
      rfl

theorem le_of_mem_escapedChar {d : Char} (mem : d ∈ escapedChar c) : 0x20 ≤ d.toNat := by
  rcases escapedChar_cases c with ⟨letter, written, -, visible, -⟩ | ⟨written, -⟩ |
    ⟨written, -, -, printed⟩
  · rw [written] at mem
    have both : ∀ d ∈ ['\\', letter], Visible d :=
      List.forall_mem_cons.mpr ⟨by decide, List.forall_mem_singleton.mpr visible⟩
    exact Nat.le_of_lt (both d mem)
  · rw [written] at mem
    have digit (n : Nat) : Visible (hexDigit (n % 16)) :=
      (hexDigit_spec _ (Nat.mod_lt n (by decide))).2
    have all : ∀ d ∈ controlEscape c, Visible d := by
      simp [controlEscape, digit, show Visible '\\' by decide, show Visible 'u' by decide]
    exact Nat.le_of_lt (all d mem)
  · rw [written] at mem
    exact List.mem_singleton.mp mem ▸ printed

end Literal

/-! ## Terms -/

/-- The IRI between angle brackets, of which the first has been read. -/
def Iri.ofBracketed? (cs : List Char) : Option Iri :=
  (Iri.ofText (String.ofList cs.dropLast)).toOption

theorem Iri.toList_bracketed (i : Iri) : i.bracketed.toList = '<' :: (i.text.toList ++ ['>']) := by
  simp [bracketed]

theorem Iri.ofBracketed?_bracketed (i : Iri) :
    Iri.ofBracketed? (i.text.toList ++ ['>']) = some i := by
  simp [ofBracketed?, Iri.ofText_text, Except.toOption]

theorem BlankNode.toList_marked (b : BlankNode) :
    b.marked.toList = '_' :: ':' :: b.id.toList := by
  simp [marked]

/-- What stands behind the text of a literal. -/
def LiteralKind.ntriples : LiteralKind → List Char
  | .tagged tag => '@' :: tag.text.toList
  | .typed datatype =>
    if datatype = Iri.xsdString then [] else '^' :: '^' :: datatype.bracketed.toList

/-- Reads what stands behind the text of a literal. -/
def LiteralKind.ofNtriples? : List Char → Option LiteralKind
  | [] => some (.typed .xsdString)
  | '@' :: tag => (LanguageTag.ofTag? (String.ofList tag)).map .tagged
  | '^' :: '^' :: '<' :: datatype => (Iri.ofBracketed? datatype).map .typed
  | _ => none

theorem LiteralKind.ofNtriples?_ntriples (kind : LiteralKind) :
    ofNtriples? kind.ntriples = some kind := by
  cases kind with
  | tagged tag => simp [ntriples, ofNtriples?, LanguageTag.ofTag?_text]
  | typed datatype =>
      by_cases plain : datatype = Iri.xsdString
      · simp [ntriples, ofNtriples?, plain]
      · simp [ntriples, ofNtriples?, plain, Iri.toList_bracketed, Iri.ofBracketed?_bracketed]

theorem Literal.toList_ntriples (l : Literal) :
    l.ntriples.toList =
      '"' :: (l.value.toList.flatMap escapedChar ++ '"' :: l.kind.ntriples) := by
  obtain ⟨value, tag | datatype⟩ := l
  · simp [ntriples, escaped, LiteralKind.ntriples]
  · by_cases plain : datatype = Iri.xsdString <;>
      simp [ntriples, escaped, LiteralKind.ntriples, plain]

namespace Term

def ofNtriples? (s : String) : Option Term :=
  match s.toList with
  | '<' :: cs => (Iri.ofBracketed? cs).map .iri
  | '_' :: ':' :: cs => (BlankNode.ofId? (String.ofList cs)).map .blank
  | '"' :: cs => do
    let (value, rest) ← Literal.readQuoted cs
    return .literal ⟨String.ofList value, ← LiteralKind.ofNtriples? rest⟩
  | _ => none

/-- **A term comes back from its N-Triples text.** -/
theorem ofNtriples?_ntriples (t : Term) : ofNtriples? t.ntriples = some t := by
  cases t with
  | iri i => simp [ntriples, ofNtriples?, Iri.toList_bracketed, Iri.ofBracketed?_bracketed]
  | blank b => simp [ntriples, ofNtriples?, BlankNode.toList_marked, BlankNode.ofId?_id]
  | literal l =>
      simp [ntriples, ofNtriples?, Literal.toList_ntriples, Literal.readQuoted_escaped,
        LiteralKind.ofNtriples?_ntriples]

theorem ntriples_ne_empty (t : Term) : t.ntriples ≠ "" := by
  intro none
  have read := t.ofNtriples?_ntriples
  rw [none] at read
  cases read

end Term

/-! ## What stands in a text -/

theorem Iri.bracketed_printed (i : Iri) : ∀ c ∈ i.bracketed.toList, 0x20 ≤ c.toNat := by
  rw [toList_bracketed]
  exact List.forall_mem_cons.mpr ⟨by decide, List.forall_mem_append.mpr
    ⟨fun c mem => Nat.le_of_lt (i.visible c mem), List.forall_mem_singleton.mpr (by decide)⟩⟩

theorem BlankNode.marked_printed (b : BlankNode) : ∀ c ∈ b.marked.toList, 0x20 ≤ c.toNat := by
  rw [toList_marked]
  exact List.forall_mem_cons.mpr ⟨by decide, List.forall_mem_cons.mpr
    ⟨by decide, fun c mem => Nat.le_of_lt (b.visible c mem)⟩⟩

theorem LiteralKind.ntriples_printed (kind : LiteralKind) :
    ∀ c ∈ kind.ntriples, 0x20 ≤ c.toNat := by
  cases kind with
  | tagged tag =>
      exact List.forall_mem_cons.mpr
        ⟨by decide, fun c mem => Nat.le_of_lt (tag.visible c mem)⟩
  | typed datatype =>
      by_cases plain : datatype = Iri.xsdString
      · rw [ntriples, if_pos plain]
        exact List.forall_mem_nil _
      · rw [ntriples, if_neg plain]
        exact List.forall_mem_cons.mpr
          ⟨by decide, List.forall_mem_cons.mpr ⟨by decide, datatype.bracketed_printed⟩⟩

theorem Literal.ntriples_printed (l : Literal) : ∀ c ∈ l.ntriples.toList, 0x20 ≤ c.toNat := by
  have value : ∀ c ∈ l.value.toList.flatMap escapedChar, 0x20 ≤ c.toNat := by
    intro c mem
    obtain ⟨_, _, mem⟩ := List.mem_flatMap.mp mem
    exact le_of_mem_escapedChar mem
  rw [toList_ntriples]
  exact List.forall_mem_cons.mpr ⟨by decide, List.forall_mem_append.mpr
    ⟨value, List.forall_mem_cons.mpr ⟨by decide, l.kind.ntriples_printed⟩⟩⟩

/-- **No control stands in the N-Triples text of a term**, whatever a literal holds. -/
theorem Term.ntriples_printed (t : Term) : ∀ c ∈ t.ntriples.toList, 0x20 ≤ c.toNat := by
  cases t with
  | iri i => exact i.bracketed_printed
  | blank b => exact b.marked_printed
  | literal l => exact l.ntriples_printed

end GraphPattern
