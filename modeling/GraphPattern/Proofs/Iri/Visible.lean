/-
# An IRI is made of visible characters

No reader of an IRI passes over a blank or a control of ASCII.  `Passes cs rest` says of what
a reader has left that only visible characters stood before it; there is one lemma for each
reader, in the order in which they use each other, and `Iri.visible` is what comes of them.
-/
import GraphPattern.Rdf.Term
import Mathlib.Data.List.TakeDrop
import Mathlib.Data.List.TakeWhile

namespace GraphPattern

/-- A character behind the blank in the order of code points. -/
def Visible (c : Char) : Prop := 0x20 < c.toNat

instance (c : Char) : Decidable (Visible c) := inferInstanceAs (Decidable (0x20 < c.toNat))

theorem forall_visible {cs : List Char} (h : (cs.all fun c => decide (Visible c)) = true) :
    ∀ c ∈ cs, Visible c :=
  fun c mem => of_decide_eq_true (List.all_eq_true.mp h c mem)

namespace Iri

/-! ## Classes of characters -/

theorem visible_of_letter {c : Char} (h : isAsciiLetter c = true) : Visible c := by
  simp only [isAsciiLetter, Bool.or_eq_true, Bool.and_eq_true, decide_eq_true_eq, Char.le_def,
    UInt32.le_iff_toNat_le] at h
  have low : 'a'.val.toNat = 0x61 ∧ 'A'.val.toNat = 0x41 := by decide
  simp only [Visible, Char.toNat]
  omega

theorem visible_of_digit {c : Char} (h : isAsciiDigit c = true) : Visible c := by
  simp only [isAsciiDigit, Bool.and_eq_true, decide_eq_true_eq, Char.le_def,
    UInt32.le_iff_toNat_le] at h
  have low : '0'.val.toNat = 0x30 := by decide
  simp only [Visible, Char.toNat]
  omega

theorem visible_of_hexDigit {c : Char} (h : isHexDigit c = true) : Visible c := by
  simp only [isHexDigit, Bool.or_eq_true, Bool.and_eq_true, decide_eq_true_eq, Char.le_def,
    UInt32.le_iff_toNat_le, or_assoc] at h
  have low : 'a'.val.toNat = 0x61 ∧ 'A'.val.toNat = 0x41 := by decide
  rcases h with digit | letter
  · exact visible_of_digit digit
  · simp only [Visible, Char.toNat]
    omega

theorem visible_of_inRange {c : Char} {first last : Nat} (h : inRange c first last = true)
    (low : 0x20 < first) : Visible c := by
  simp only [inRange, Bool.and_eq_true, decide_eq_true_eq] at h
  exact Nat.lt_of_lt_of_le low h.1

theorem visible_of_asciiPlain {c : Char} (h : isAsciiPlain c = true) : Visible c := by
  simp only [isAsciiPlain, isAsciiAlphanumeric, Bool.or_eq_true, decide_eq_true_eq] at h
  rcases h with (letter | digit) | mark
  · exact visible_of_letter letter
  · exact visible_of_digit digit
  · exact forall_visible (by decide) c mark

theorem visible_of_plain {c : Char} (h : isPlain c = true) : Visible c := by
  simp only [isPlain, isForeignPlain, Bool.or_eq_true, Bool.and_eq_true] at h
  rcases h with ascii | (((range | range) | range) | ⟨range, -⟩) | range
  · exact visible_of_asciiPlain ascii
  all_goals exact visible_of_inRange range (by decide)

theorem visible_of_private {c : Char} (h : isPrivate c = true) : Visible c := by
  simp only [isPrivate, Bool.or_eq_true] at h
  rcases h with (range | range) | range
  all_goals exact visible_of_inRange range (by decide)

/-! ## What is passed over -/

/-- Only visible characters stand before the rest of a text. -/
def Passes (cs rest : List Char) : Prop := ∃ read, read ++ rest = cs ∧ ∀ c ∈ read, Visible c

variable {cs cs' read rest : List Char} {c : Char}

theorem Passes.refl (cs : List Char) : Passes cs cs :=
  ⟨[], rfl, List.forall_mem_nil _⟩

theorem Passes.trans (h : Passes cs cs') (h' : Passes cs' rest) : Passes cs rest := by
  obtain ⟨read, rfl, visible⟩ := h
  obtain ⟨read', rfl, visible'⟩ := h'
  refine ⟨read ++ read', List.append_assoc .., fun c mem => ?_⟩
  exact (List.mem_append.mp mem).elim (visible c) (visible' c)

theorem Passes.cons (visible : Visible c) (h : Passes cs rest) : Passes (c :: cs) rest := by
  obtain ⟨read, rfl, others⟩ := h
  exact ⟨c :: read, rfl, List.forall_mem_cons.mpr ⟨visible, others⟩⟩

theorem Passes.visible (h : Passes cs []) : ∀ c ∈ cs, Visible c := by
  obtain ⟨read, rfl, visible⟩ := h
  rwa [List.append_nil]

theorem passes_all (visible : ∀ c ∈ read, Visible c) : Passes (read ++ rest) rest :=
  ⟨read, rfl, visible⟩

/-- What a reader leaves is nothing, or starts where it has to stop. -/
def EndsAt (stop : Char → Bool) (rest : List Char) : Prop :=
  ∀ c, rest.head? = some c → stop c = true

/-- A span is made of what meets its condition, and ends where that fails. -/
theorem span_spec (p : Char → Bool) (cs : List Char) :
    ∃ read rest, cs.span p = (read, rest) ∧ read ++ rest = cs ∧ (∀ c ∈ read, p c = true) ∧
      EndsAt (fun c => !p c) rest := by
  refine ⟨_, _, List.span_eq_takeWhile_dropWhile p cs, List.takeWhile_append_dropWhile,
    fun c mem => List.mem_takeWhile_imp mem, fun c first => ?_⟩
  have fails := List.head?_dropWhile_not p cs
  rw [first] at fails
  simpa using fails

theorem scan_passes {extra stop : Char → Bool} (visible : ∀ c, extra c = true → Visible c)
    (h : scan extra stop cs = .ok (read, rest)) : Passes cs rest := by
  fun_induction scan extra stop cs generalizing read rest with
  | case1 => cases h; exact .refl _
  | case2 a b tail digits read' rest' found ih =>
      obtain ⟨digit, digit'⟩ := Bool.and_eq_true_iff.mp digits
      cases h
      exact .cons (by decide) (.cons (visible_of_hexDigit digit)
        (.cons (visible_of_hexDigit digit') (ih found)))
  | case3 => cases h
  | case4 => cases h
  | case5 => cases h; exact .refl _
  | case6 => cases h
  | case7 c tail _ _ _ allowed read' rest' found ih =>
      cases h
      have seen : Visible c := (Bool.or_eq_true_iff.mp allowed).elim visible_of_plain (visible c)
      exact .cons seen (ih found)
  | case8 => cases h
  | case9 => cases h

theorem scan_endsAt {extra stop : Char → Bool} (h : scan extra stop cs = .ok (read, rest)) :
    EndsAt stop rest := by
  fun_induction scan extra stop cs generalizing read rest with
  | case1 =>
      cases h
      intro d first
      cases first
  | case2 a b tail _ read' rest' found ih =>
      cases h
      exact ih found
  | case3 => cases h
  | case4 => cases h
  | case5 c tail _ stops =>
      cases h
      intro d first
      exact Option.some.inj first ▸ stops
  | case6 => cases h
  | case7 c tail _ _ _ _ read' rest' found ih =>
      cases h
      exact ih found
  | case8 => cases h
  | case9 => cases h

/-! ## Addresses -/

theorem readOctet_passes (h : readOctet cs = some rest) : Passes cs rest := by
  obtain ⟨digits, behind, span, rfl, all, -⟩ := span_spec isAsciiDigit cs
  simp only [readOctet, span] at h
  split at h
  · cases h
  · split at h
    · cases h
    · split at h
      · cases h
      · cases h
        exact passes_all fun c mem => visible_of_digit (all c mem)

theorem readChar_passes (visible : Visible c) (h : readChar c cs = some rest) :
    Passes cs rest := by
  cases cs with
  | nil => cases h
  | cons d cs =>
      simp only [readChar] at h
      split at h
      · next same =>
          cases h
          exact .cons (same ▸ visible) (.refl _)
      · cases h

theorem readDotted_passes (h : readDotted cs = some rest) : Passes cs rest := by
  have dot : Visible '.' := by decide
  simp only [readDotted, Option.bind_eq_bind, Option.bind_eq_some_iff] at h
  obtain ⟨_, a, _, p, _, b, _, q, _, c, _, r, d⟩ := h
  exact (readOctet_passes a).trans <| (readChar_passes dot p).trans <|
    (readOctet_passes b).trans <| (readChar_passes dot q).trans <|
    (readOctet_passes c).trans <| (readChar_passes dot r).trans (readOctet_passes d)

theorem readGroup_passes (h : readGroup cs = some rest) : Passes cs rest := by
  obtain ⟨digits, behind, span, rfl, all, -⟩ := span_spec isHexDigit cs
  simp only [readGroup, span] at h
  split at h
  · cases h
  · cases h
    exact passes_all fun c mem => visible_of_hexDigit (all c mem)

theorem readSeparator_passes {first : Bool} (h : readSeparator first cs = some rest) :
    Passes cs rest := by
  unfold readSeparator at h
  split at h
  · cases h
    exact .refl _
  · exact readChar_passes (by decide) h

theorem readGroups_passes (room count : Nat) (cs : List Char) :
    Passes cs (readGroups room count cs).rest := by
  induction room generalizing count cs with
  | zero => exact .refl cs
  | succ room ih =>
      unfold readGroups
      dsimp only
      split
      · next rest dotted =>
          split at dotted
          · cases dotted
          · obtain ⟨_, separator, address⟩ := Option.bind_eq_some_iff.mp dotted
            exact (readSeparator_passes separator).trans (readDotted_passes address)
      · split
        · next rest group =>
            obtain ⟨_, separator, digits⟩ := Option.bind_eq_some_iff.mp group
            exact (readSeparator_passes separator).trans
              ((readGroup_passes digits).trans (ih (count + 1) rest))
        · exact .refl cs

theorem visible_of_address (h : isAddress cs = true) : ∀ c ∈ cs, Visible c := by
  have front := readGroups_passes 8 0 cs
  unfold isAddress at h
  dsimp only at h
  split at h
  · rw [List.isEmpty_iff.mp h] at front
    exact front.visible
  · split at h
    · cases h
    · split at h
      · next rest gap =>
          rw [gap] at front
          have back := readGroups_passes (7 - (readGroups 8 0 cs).count) 0 rest
          rw [List.isEmpty_iff.mp h] at back
          exact (front.trans (.cons (by decide) (.cons (by decide) back))).visible
      · cases h

/-! ## Parts of a reference -/

theorem exists_of_bind_ok {α β : Type} {first : Except Fault α} {next : α → Except Fault β}
    {b : β} (h : first >>= next = .ok b) : ∃ a, first = .ok a ∧ next a = .ok b := by
  cases first with
  | error fault => cases h
  | ok a => exact ⟨a, rfl, h⟩

theorem visible_of_beq {d : Char} (visible : Visible d) (h : (c == d) = true) : Visible c :=
  eq_of_beq h ▸ visible

theorem visible_of_pathMark (h : (c == ':' || c == '@' || c == '/') = true) : Visible c := by
  simp only [Bool.or_eq_true] at h
  rcases h with (mark | mark) | mark
  all_goals exact visible_of_beq (by decide) mark

theorem visible_of_fragmentMark (h : (c == ':' || c == '@' || c == '/' || c == '?') = true) :
    Visible c :=
  (Bool.or_eq_true_iff.mp h).elim visible_of_pathMark (visible_of_beq (by decide))

theorem readUserInfo_passes (h : readUserInfo cs = .ok (read, rest)) : Passes cs rest := by
  unfold readUserInfo at h
  split at h
  · next user behind found =>
      cases h
      have colon : ∀ c, (c == ':') = true → Visible c := fun _ => visible_of_beq (by decide)
      exact (scan_passes colon found).trans (.cons (by decide) (.refl _))
  · cases h
    exact .refl cs
  · cases h

theorem visible_of_future (h : checkFutureAddress (c :: cs) = .ok ()) : ∀ d ∈ cs, Visible d := by
  obtain ⟨version, behind, span, rfl, -, dot⟩ := span_spec (· != '.') cs
  simp only [checkFutureAddress, List.drop_one, List.tail_cons, span] at h
  split at h
  · cases h
  · next digits =>
      split at h
      · cases h
      · split at h
        · cases h
        · next filled =>
            split at h
            · cases h
            · next plain =>
                obtain _ | ⟨mark, address⟩ := behind
                · cases filled rfl
                · have mark' : mark = '.' := by simpa using dot mark rfl
                  subst mark'
                  refine (List.forall_mem_append.mpr ⟨fun d mem => ?_, ?_⟩)
                  · exact visible_of_hexDigit (by simpa using List.find?_eq_none.mp digits d mem)
                  · refine List.forall_mem_cons.mpr ⟨by decide, fun d mem => ?_⟩
                    have allowed := List.find?_eq_none.mp plain d mem
                    simp only [Bool.not_eq_true, Bool.not_eq_false', Bool.or_eq_true] at allowed
                    exact allowed.elim visible_of_asciiPlain (visible_of_beq (by decide))

theorem visible_of_bracketed (h : checkBracketed cs = .ok ()) : ∀ c ∈ cs, Visible c := by
  unfold checkBracketed at h
  split at h
  · exact List.forall_mem_cons.mpr ⟨by decide, visible_of_future h⟩
  · exact List.forall_mem_cons.mpr ⟨by decide, visible_of_future h⟩
  · split at h
    · next address => exact visible_of_address address
    · cases h

theorem readBracketed_passes (h : readBracketed cs = .ok (read, rest)) : Passes cs rest := by
  obtain ⟨inner, behind, span, rfl, -, close⟩ := span_spec (· != ']') cs
  simp only [readBracketed, span] at h
  split at h
  · cases h
  · next mark behind =>
      have mark' : mark = ']' := by simpa using close mark rfl
      split at h
      · cases h
      · next checked =>
          have inside : Passes (inner ++ mark :: behind) behind :=
            (passes_all (visible_of_bracketed checked)).trans
              (.cons (mark' ▸ by decide) (.refl _))
          split at h
          · cases h
            exact inside
          · split at h
            · cases h
              exact inside
            · cases h

theorem readHost_passes (h : readHost cs = .ok (read, rest)) : Passes cs rest := by
  unfold readHost at h
  split at h
  · exact .cons (by decide) (readBracketed_passes h)
  · exact scan_passes (fun _ never => absurd never Bool.false_ne_true) h

theorem readHostNumber_passes (h : readHostNumber cs = .ok (read, rest)) : Passes cs rest := by
  unfold readHostNumber at h
  split at h
  · next text =>
      obtain ⟨digits, behind, span, rfl, all, -⟩ := span_spec isAsciiDigit text
      have seen : Passes (':' :: (digits ++ behind)) behind :=
        .cons (by decide) (passes_all fun c mem => visible_of_digit (all c mem))
      simp only [span] at h
      split at h
      · cases h
        exact seen
      · split at h
        · cases h
          exact seen
        · cases h
  · cases h
    exact .refl cs

theorem readAuthority_passes (h : readAuthority cs = .ok (read, rest)) : Passes cs rest := by
  obtain ⟨⟨_, behind⟩, user, h⟩ := exists_of_bind_ok h
  obtain ⟨⟨_, behind'⟩, host, h⟩ := exists_of_bind_ok h
  obtain ⟨⟨_, behind''⟩, number, h⟩ := exists_of_bind_ok h
  cases h
  exact (readUserInfo_passes user).trans
    ((readHost_passes host).trans (readHostNumber_passes number))

theorem readPath_passes (h : readPath cs = .ok (read, rest)) : Passes cs rest :=
  scan_passes (fun _ => visible_of_pathMark) h

theorem readRelativePath_passes (h : readRelativePath cs = .ok (read, rest)) :
    Passes cs rest ∧ EndsAt isPathEnd rest := by
  obtain ⟨⟨_, behind⟩, first, h⟩ := exists_of_bind_ok h
  obtain ⟨⟨_, behind'⟩, others, h⟩ := exists_of_bind_ok h
  cases h
  have segment := scan_passes (fun _ => visible_of_beq (by decide)) first
  exact ⟨segment.trans (readPath_passes others), scan_endsAt others⟩

theorem splitScheme_passes (h : splitScheme cs = some (read, rest)) : Passes cs rest := by
  obtain ⟨scheme, behind, span, whole, all, -⟩ :=
    span_spec (fun c => isAsciiAlphanumeric c || c == '+' || c == '-' || c == '.') cs
  have seen : Passes (scheme ++ behind) behind := by
    refine passes_all fun c mem => ?_
    have allowed := all c mem
    simp only [isAsciiAlphanumeric, Bool.or_eq_true] at allowed
    rcases allowed with (((letter | digit) | mark) | mark) | mark
    · exact visible_of_letter letter
    · exact visible_of_digit digit
    all_goals exact visible_of_beq (by decide) mark
  rw [whole] at seen
  unfold splitScheme at h
  split at h
  · cases h
  · split at h
    · simp only [span] at h
      split at h
      · cases h
        exact seen.trans (.cons (by decide) (.refl _))
      · cases h
    · cases h

theorem readHierarchy_passes {scheme : Option (List Char)} {head : Head}
    (h : readHierarchy scheme cs = .ok (head, rest)) : Passes cs rest ∧ EndsAt isPathEnd rest := by
  unfold readHierarchy at h
  split at h
  · obtain ⟨⟨_, behind⟩, authority, h⟩ := exists_of_bind_ok h
    obtain ⟨⟨_, behind'⟩, path, h⟩ := exists_of_bind_ok h
    cases h
    have slashes : Passes ('/' :: '/' :: _) behind :=
      .cons (by decide) (.cons (by decide) (readAuthority_passes authority))
    exact ⟨slashes.trans (readPath_passes path), scan_endsAt path⟩
  · split at h
    · obtain ⟨⟨_, behind⟩, path, h⟩ := exists_of_bind_ok h
      cases h
      exact ⟨readPath_passes path, scan_endsAt path⟩
    · obtain ⟨⟨_, behind⟩, path, h⟩ := exists_of_bind_ok h
      cases h
      exact readRelativePath_passes path

theorem readHead_passes {head : Head} (h : readHead cs = .ok (head, rest)) :
    Passes cs rest ∧ EndsAt isPathEnd rest := by
  unfold readHead at h
  split at h
  · cases h
  · split at h
    · next scheme =>
        obtain ⟨behind, ends⟩ := readHierarchy_passes h
        exact ⟨(splitScheme_passes scheme).trans behind, ends⟩
    · exact readHierarchy_passes h

theorem visible_of_fragment {fragment : Option (List Char)} (h : readFragment cs = .ok fragment)
    (ends : EndsAt (· == '#') cs) : ∀ c ∈ cs, Visible c := by
  unfold readFragment at h
  split at h
  · obtain ⟨⟨_, behind⟩, read, _⟩ := exists_of_bind_ok h
    have passes := scan_passes (fun _ => visible_of_fragmentMark) read
    cases behind with
    | nil => exact (passes.cons (by decide)).visible
    | cons c _ => exact absurd (scan_endsAt read c rfl) Bool.false_ne_true
  · next other =>
      cases cs with
      | nil => exact List.forall_mem_nil _
      | cons c cs => exact absurd (by rw [eq_of_beq (ends c rfl)]) (other cs)

theorem visible_of_tail {tail : Tail} (h : readTail cs = .ok tail) (ends : EndsAt isPathEnd cs) :
    ∀ c ∈ cs, Visible c := by
  unfold readTail at h
  split at h
  · obtain ⟨⟨_, behind⟩, query, h⟩ := exists_of_bind_ok h
    obtain ⟨_, fragment, _⟩ := exists_of_bind_ok h
    have marks : ∀ c, (c == ':' || c == '@' || c == '/' || c == '?' || isPrivate c) = true →
        Visible c :=
      fun _ allowed =>
        (Bool.or_eq_true_iff.mp allowed).elim visible_of_fragmentMark visible_of_private
    have others := visible_of_fragment fragment (scan_endsAt query)
    obtain ⟨read, rfl, visible⟩ := scan_passes marks query
    exact List.forall_mem_cons.mpr ⟨by decide, List.forall_mem_append.mpr ⟨visible, others⟩⟩
  · next other =>
      obtain ⟨_, fragment, _⟩ := exists_of_bind_ok h
      refine visible_of_fragment fragment fun c first => ?_
      obtain query | fragment := Bool.or_eq_true_iff.mp (ends c first)
      · cases cs with
        | nil => cases first
        | cons d cs =>
            cases first
            exact absurd (by rw [eq_of_beq query]) (other cs)
      · exact fragment

/-! ## The whole text -/

theorem visible_of_absolute {r : Components} (h : Components.ofAbsolute cs = .ok r) :
    ∀ c ∈ cs, Visible c := by
  obtain ⟨_, reference, _⟩ := exists_of_bind_ok h
  obtain ⟨⟨_, rest⟩, head, h⟩ := exists_of_bind_ok reference
  obtain ⟨_, tail, _⟩ := exists_of_bind_ok h
  obtain ⟨⟨read, rfl, visible⟩, ends⟩ := readHead_passes head
  exact List.forall_mem_append.mpr ⟨visible, visible_of_tail tail ends⟩

/-- **No blank and no control stands in an IRI.** -/
theorem visible (i : Iri) : ∀ c ∈ i.text.toList, Visible c := by
  have valid := i.valid
  unfold isAbsolute at valid
  split at valid
  · next read => exact visible_of_absolute read
  · cases valid

end Iri

end GraphPattern
