/-
# The texts that make up a term

An IRI, a blank node and a language tag each are known by their text: what is valid by
construction is read again as what it was.  Only visible characters stand in these texts;
so none of them holds a blank, a tab or the end of a line.
-/
import GraphPattern.Proofs.Iri.Visible

namespace GraphPattern

/-! ## Reading a text again -/

theorem Iri.ofText_text (i : Iri) : Iri.ofText i.text = .ok i := by
  have valid := i.valid
  unfold Iri.isAbsolute at valid
  unfold Iri.ofText
  split
  · rfl
  · next fault failed =>
      rw [failed] at valid
      cases valid

theorem BlankNode.ofId?_id (b : BlankNode) : BlankNode.ofId? b.id = some b := dif_pos b.valid

def LanguageTag.ofTag? (s : String) : Option LanguageTag :=
  if h : LanguageTag.isTag s = true then some ⟨s, h⟩ else none

theorem LanguageTag.ofTag?_text (tag : LanguageTag) : LanguageTag.ofTag? tag.text = some tag :=
  dif_pos tag.valid

/-! ## Blank node ids -/

namespace BlankNode

variable {c : Char}

theorem visible_of_idStart (h : isIdStart c = true) : Visible c := by
  simp only [isIdStart, Iri.isAsciiAlphanumeric, Bool.or_eq_true, or_assoc] at h
  rcases h with letter | digit | mark | mark | others
  · exact Iri.visible_of_letter letter
  · exact Iri.visible_of_digit digit
  · exact Iri.visible_of_beq (by decide) mark
  · exact Iri.visible_of_beq (by decide) mark
  · rcases others with h | h | h | h | h | h | h | h | h | h | h | h
    all_goals exact Iri.visible_of_inRange h (by decide)

theorem visible_of_idPart (h : isIdPart c = true) : Visible c := by
  simp only [isIdPart, Bool.or_eq_true, or_assoc] at h
  rcases h with start | mark | mark | dot | range | range
  · exact visible_of_idStart start
  · exact Iri.visible_of_beq (by decide) mark
  · exact Iri.visible_of_beq (by decide) mark
  · unfold Visible
    rw [eq_of_beq dot]
    decide
  · exact Iri.visible_of_inRange range (by decide)
  · exact Iri.visible_of_inRange range (by decide)

/-- **No blank and no control stands in the id of a blank node.** -/
theorem visible (b : BlankNode) : ∀ c ∈ b.id.toList, Visible c := by
  have valid := b.valid
  unfold isId at valid
  split at valid
  · cases valid
  · next first others text =>
      rw [text]
      simp only [Bool.and_eq_true, List.all_eq_true] at valid
      obtain ⟨⟨start, parts⟩, -⟩ := valid
      exact List.forall_mem_cons.mpr
        ⟨visible_of_idStart start, fun c mem => visible_of_idPart (parts c mem)⟩

end BlankNode

/-! ## Language tags -/

namespace LanguageTag

variable {c : Char} {subtag : List Char} {place place' : Place}

theorem visible_of_alphanumeric (h : allAlphanumeric subtag = true) :
    ∀ c ∈ subtag, Visible c := by
  intro c mem
  have allowed := List.all_eq_true.mp h c mem
  exact (Bool.or_eq_true_iff.mp allowed).elim Iri.visible_of_letter Iri.visible_of_digit

theorem alphanumeric_of_letters (h : allLetters subtag = true) : allAlphanumeric subtag = true :=
  List.all_eq_true.mpr fun c mem => Bool.or_eq_true_iff.mpr (.inl (List.all_eq_true.mp h c mem))

theorem alphanumeric_of_digits (h : allDigits subtag = true) : allAlphanumeric subtag = true :=
  List.all_eq_true.mpr fun c mem => Bool.or_eq_true_iff.mpr (.inr (List.all_eq_true.mp h c mem))

theorem readMiddle_alphanumeric (h : readMiddle place subtag = .ok place') :
    allAlphanumeric subtag = true := by
  -- Scripts, regions and variants may stand behind any place; an extended language may not.
  have other (h : (if place.beforeScript && subtag.length == 4 && allLetters subtag then
        (.ok .script : Except Fault Place)
      else if place.beforeRegion && isRegion subtag then .ok .region
      else if place.beforeVariant && isVariant subtag then .ok .region
      else .error .badSubtag) = .ok place') : allAlphanumeric subtag = true := by
    split at h
    · next script => exact alphanumeric_of_letters (Bool.and_eq_true_iff.mp script).2
    · split at h
      · next region =>
          simp only [isRegion, Bool.and_eq_true, Bool.or_eq_true] at region
          rcases region with ⟨-, ⟨-, letters⟩ | ⟨-, digits⟩⟩
          · exact alphanumeric_of_letters letters
          · exact alphanumeric_of_digits digits
      · split at h
        · next variant => exact (Bool.and_eq_true_iff.mp (Bool.and_eq_true_iff.mp variant).2).1
        · cases h
  unfold readMiddle at h
  dsimp only at h
  split at h
  · split at h
    · next extended => exact alphanumeric_of_letters (Bool.and_eq_true_iff.mp extended).2
    · exact other h
  · exact other h

theorem readSubtag_alphanumeric (h : readSubtag place subtag = .ok place') :
    allAlphanumeric subtag = true := by
  have letter : subtag = ['x'] → allAlphanumeric subtag = true := fun h => h ▸ by decide
  unfold readSubtag at h
  dsimp only at h
  split at h
  · split at h
    · cases h
    · next language =>
        simp only [Bool.or_eq_true, not_or, Bool.not_eq_true, Bool.not_eq_false'] at language
        exact alphanumeric_of_letters language.2
  · split at h
    · assumption
    · cases h
  · split at h
    · next single => exact (Bool.and_eq_true_iff.mp single).2
    · split at h
      · assumption
      · cases h
  · split at h
    · next mark => exact letter mark
    · split at h
      · next single => exact (Bool.and_eq_true_iff.mp single).2
      · exact readMiddle_alphanumeric h

theorem readSubtags_alphanumeric {subtags : List (List Char)}
    (h : readSubtags place subtags = .ok place') :
    ∀ subtag ∈ subtags, allAlphanumeric subtag = true := by
  induction subtags generalizing place with
  | nil => exact List.forall_mem_nil _
  | cons subtag subtags ih =>
      unfold readSubtags at h
      split at h
      · cases h
      · split at h
        · cases h
        · split at h
          · next read =>
              exact List.forall_mem_cons.mpr ⟨readSubtag_alphanumeric read, ih h⟩
          · cases h

theorem mem_splitSubtags {cs : List Char} (mem : c ∈ cs) :
    c = '-' ∨ ∃ subtag ∈ splitSubtags cs, c ∈ subtag := by
  fun_induction splitSubtags cs with
  | case1 => cases mem
  | case2 rest ih =>
      rcases List.mem_cons.mp mem with hyphen | mem
      · exact .inl hyphen
      · obtain hyphen | ⟨subtag, among, mem⟩ := ih mem
        · exact .inl hyphen
        · exact .inr ⟨subtag, List.mem_cons_of_mem _ among, mem⟩
  | case3 d rest _ none ih =>
      rcases List.mem_cons.mp mem with rfl | mem
      · exact .inr ⟨[c], List.mem_singleton_self _, List.mem_singleton_self _⟩
      · obtain hyphen | ⟨_, among, _⟩ := ih mem
        · exact .inl hyphen
        · rw [none] at among
          cases among
  | case4 d rest _ first others split ih =>
      rcases List.mem_cons.mp mem with rfl | mem
      · exact .inr ⟨c :: first, List.mem_cons_self, List.mem_cons_self⟩
      · obtain hyphen | ⟨subtag, among, mem⟩ := ih mem
        · exact .inl hyphen
        · rcases List.mem_cons.mp (split ▸ among) with rfl | among
          · exact .inr ⟨d :: subtag, List.mem_cons_self, List.mem_cons_of_mem _ mem⟩
          · exact .inr ⟨subtag, List.mem_cons_of_mem _ among, mem⟩

theorem visible_of_subtags {cs : List Char}
    (h : readSubtags place (splitSubtags cs) = .ok place') : ∀ c ∈ cs, Visible c := by
  intro c mem
  obtain rfl | ⟨subtag, among, mem⟩ := mem_splitSubtags mem
  · decide
  · exact visible_of_alphanumeric (readSubtags_alphanumeric h subtag among) c mem

theorem visible_of_registered {s : String} (mem : s ∈ registered) :
    ∀ c ∈ s.toList, Visible c := by
  have all : (registered.all fun s => s.toList.all fun c => decide (Visible c)) = true := by
    decide +kernel
  exact forall_visible (List.all_eq_true.mp all s mem)

/-- **No blank and no control stands in a language tag.** -/
theorem visible (tag : LanguageTag) : ∀ c ∈ tag.text.toList, Visible c := by
  have valid : check tag.text = .ok () := by
    have valid := tag.valid
    unfold isTag at valid
    split at valid
    · assumption
    · cases valid
  unfold check at valid
  split at valid
  · next known => exact visible_of_registered known
  · split at valid
    · cases valid
    · next rest _ text =>
        rw [text]
        cases read : readSubtags (.privateUse false) (splitSubtags rest) with
        | error fault =>
            rw [read] at valid
            cases valid
        | ok place =>
            exact List.forall_mem_cons.mpr ⟨by decide,
              List.forall_mem_cons.mpr ⟨by decide, visible_of_subtags read⟩⟩
    · split at valid
      · cases valid
      · cases valid
      · next read => exact visible_of_subtags read
      · cases valid

end LanguageTag

end GraphPattern
