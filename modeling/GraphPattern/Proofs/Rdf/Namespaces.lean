/-
# The declaration that counts

A prefix may be declared more than once; the last declaration of it is what a lookup finds
(`LastIn`), so that the others may be left out (`lastOfEach`).

Names are shortened by declarations that count, and read by cutting them at their first
colon.  Reading is the inverse of shortening as long as the prefix has no colon of its own: a
name with such a prefix is cut inside it, and is read by another prefix or not at all.
-/
import GraphPattern.Proofs.Iri.Visible
import GraphPattern.Rdf.Namespaces

namespace GraphPattern

namespace PrefixDeclaration

variable {d e : PrefixDeclaration} {ds kept : List PrefixDeclaration}

/-- A declaration is the last one of its prefix. -/
def LastIn (d : PrefixDeclaration) (ds : List PrefixDeclaration) : Prop :=
  ∃ earlier later, ds = earlier ++ d :: later ∧ ∀ e ∈ later, e.name ≠ d.name

def lastOfEach : List PrefixDeclaration → List PrefixDeclaration
  | [] => []
  | d :: ds => if d.name ∈ ds.map (·.name) then lastOfEach ds else d :: lastOfEach ds

theorem LastIn.mem (h : d.LastIn ds) : d ∈ ds := by
  obtain ⟨earlier, later, rfl, -⟩ := h
  simp

theorem lastIn_cons : d.LastIn (e :: ds) ↔ d.LastIn ds ∨ d = e ∧ e.name ∉ ds.map (·.name) := by
  constructor
  · rintro ⟨earlier, later, same, others⟩
    cases earlier with
    | nil =>
        obtain ⟨rfl, rfl⟩ := List.cons.inj same
        exact .inr ⟨rfl, by simpa using others⟩
    | cons e' earlier =>
        obtain ⟨rfl, rfl⟩ := List.cons.inj same
        exact .inl ⟨earlier, later, rfl, others⟩
  · rintro (⟨earlier, later, rfl, others⟩ | ⟨rfl, others⟩)
    · exact ⟨e :: earlier, later, rfl, others⟩
    · exact ⟨[], ds, rfl, by simpa using others⟩

theorem mem_lastOfEach : d ∈ lastOfEach ds ↔ d.LastIn ds := by
  induction ds with
  | nil =>
      constructor
      · intro mem
        cases mem
      · intro last
        cases last.mem
  | cons e ds ih =>
      rw [lastIn_cons, lastOfEach]
      by_cases again : e.name ∈ ds.map (·.name)
      · simp [again, ih]
      · simp [again, ih, or_comm]

theorem nodup_names_lastOfEach (ds : List PrefixDeclaration) :
    ((lastOfEach ds).map (·.name)).Nodup := by
  induction ds with
  | nil => exact .nil
  | cons e ds ih =>
      rw [lastOfEach]
      split
      · exact ih
      · next new =>
          refine List.nodup_cons.mpr ⟨fun old => new ?_, ih⟩
          obtain ⟨d, mem, same⟩ := List.mem_map.mp old
          exact List.mem_map.mpr ⟨d, (mem_lastOfEach.mp mem).mem, same⟩

theorem lastIn_of_nodup (distinct : (ds.map (·.name)).Nodup) : d.LastIn ds ↔ d ∈ ds := by
  constructor
  · exact LastIn.mem
  · intro mem
    obtain ⟨earlier, later, rfl⟩ := List.append_of_mem mem
    refine ⟨earlier, later, rfl, fun e after same => ?_⟩
    rw [List.map_append, List.map_cons] at distinct
    have once := (List.nodup_append.mp distinct).2.1
    exact (List.nodup_cons.mp once).1 (List.mem_map.mpr ⟨e, after, same⟩)

theorem lastIn_of_perm (perm : kept.Perm (lastOfEach ds)) : d.LastIn kept ↔ d.LastIn ds := by
  have distinct : (kept.map (·.name)).Nodup :=
    (perm.map (·.name)).nodup_iff.mpr (nodup_names_lastOfEach ds)
  rw [lastIn_of_nodup distinct, perm.mem_iff, mem_lastOfEach]

end PrefixDeclaration

/-! ## Names with a colon -/

theorem splitQname_eq_some {q name localName : String} :
    splitQname q = some (name, localName) ↔
      q = name ++ ":" ++ localName ∧ ':' ∉ name.toList := by
  obtain ⟨front, behind, span, joined, plain, stop⟩ := Iri.span_spec (· != ':') q.toList
  have free : ':' ∉ front := fun mem => by simpa using plain ':' mem
  rw [splitQname, span]
  cases behind with
  | nil =>
      refine iff_of_false nofun ?_
      rintro ⟨rfl, -⟩
      rw [List.append_nil] at joined
      exact free (by simp [joined])
  | cons c behind =>
      obtain rfl : c = ':' := by simpa using stop c rfl
      have text : q = String.ofList front ++ ":" ++ String.ofList behind := by
        rw [← String.toList_inj, ← joined]
        simp
      constructor
      · intro cut
        cases cut
        exact ⟨text, by simpa using free⟩
      · rintro ⟨same, free'⟩
        -- both texts in front of the colon end where the first colon stands
        have lists : front ++ ':' :: behind = name.toList ++ ':' :: localName.toList := by
          rw [joined, same]
          simp
        have first := congrArg (List.takeWhile (· != ':')) lists
        rw [List.takeWhile_append_of_pos plain, List.takeWhile_append_of_pos
          (fun c mem => by simpa using fun h : c = ':' => free' (h ▸ mem))] at first
        simp only [List.takeWhile_cons, bne_self_eq_false, Bool.false_eq_true, if_false,
          List.append_nil] at first
        subst first
        have second := List.append_cancel_left lists
        rw [List.cons.injEq] at second
        simp [second.2]

namespace Namespaces

open PrefixDeclaration

variable {ns : Namespaces} {name iri q : String}

/-! ## Lookups -/

/-- **A lookup finds the last declaration of a prefix.** -/
theorem find?_eq_some : ns.find? name = some iri ↔
    PrefixDeclaration.LastIn ⟨name, iri⟩ ns.declarations := by
  rw [find?, Option.map_eq_some_iff]
  constructor
  · rintro ⟨d, found, rfl⟩
    obtain ⟨same, later, earlier, reversed, others⟩ := List.find?_eq_some_iff_append.mp found
    obtain rfl : d.name = name := by simpa using same
    refine ⟨earlier.reverse, later.reverse, ?_, fun e mem => ?_⟩
    · rw [← List.reverse_reverse ns.declarations, reversed]
      simp
    · simpa using others e (List.mem_reverse.mp mem)
  · rintro ⟨earlier, later, split, others⟩
    refine ⟨⟨name, iri⟩, List.find?_eq_some_iff_append.mpr ⟨by simp, later.reverse,
      earlier.reverse, by simp [split], fun e mem => ?_⟩, rfl⟩
    simpa using others e (List.mem_reverse.mp mem)

theorem find?_eq_none : ns.find? name = none ↔ ∀ d ∈ ns.declarations, d.name ≠ name := by
  simp [find?]

theorem find?_append (ds es : List PrefixDeclaration) (name : String) :
    (mk (ds ++ es)).find? name = ((mk es).find? name).or ((mk ds).find? name) := by
  simp [find?, Option.map_or]

/-- **Only the last declaration of each prefix counts.** -/
theorem find?_of_perm {ds kept : List PrefixDeclaration} (perm : kept.Perm (lastOfEach ds)) :
    (mk kept).find? = (mk ds).find? := by
  funext name
  refine Option.ext fun iri => ?_
  rw [find?_eq_some, find?_eq_some]
  exact lastIn_of_perm perm

/-! ## Reading a name -/

/-- A name is read by the declaration of what stands in front of its first colon. -/
theorem expand_qname (ns : Namespaces) (free : ':' ∉ name.toList) (localName : String) :
    ns.expand (name ++ ":" ++ localName) = (ns.get name).map (· ++ localName) := by
  rw [expand, splitQname_eq_some.mpr ⟨rfl, free⟩]
  dsimp only
  cases ns.get name <;> rfl

/-! ## Shortening an IRI -/

theorem shortens_iff {d : PrefixDeclaration} : ns.shortens iri d = true ↔
    d.LastIn ns.declarations ∧ d.iri ≠ "" ∧ ∃ rest, iri = d.iri ++ rest := by
  have front : d.iri.toList <+: iri.toList ↔ ∃ rest, iri = d.iri ++ rest := by
    constructor
    · rintro ⟨rest, joined⟩
      refine ⟨String.ofList rest, String.toList_inj.mp ?_⟩
      simp [joined]
    · rintro ⟨rest, rfl⟩
      simp
  rw [← front]
  simp only [shortens, Bool.and_eq_true, decide_eq_true_eq, find?_eq_some,
    List.isPrefixOf_iff_prefix, Bool.not_eq_true', List.isEmpty_eq_false_iff]
  rw [ne_eq, String.toList_eq_nil_iff, and_comm]

/-- A short form names a declaration that counts and what its namespace leaves of the IRI. -/
theorem compact_eq_some (short : ns.compact iri = some q) :
    ∃ (d : PrefixDeclaration) (rest : String), d.LastIn ns.declarations ∧ d.iri ≠ "" ∧
      iri = d.iri ++ rest ∧ q = d.name ++ ":" ++ rest := by
  obtain ⟨d, found, rfl⟩ := Option.map_eq_some_iff.mp short
  obtain ⟨last, occupied, rest, rfl⟩ := shortens_iff.mp (List.find?_some found)
  refine ⟨d, rest, last, occupied, rfl, ?_⟩
  simp

theorem isSome_compact : (ns.compact iri).isSome ↔
    ∃ d : PrefixDeclaration, d.LastIn ns.declarations ∧ d.iri ≠ "" ∧
      ∃ rest, iri = d.iri ++ rest := by
  rw [compact, Option.isSome_map, List.find?_isSome]
  simp only [shortens_iff]
  constructor
  · rintro ⟨d, -, shortens⟩
    exact ⟨d, shortens⟩
  · rintro ⟨d, last, shortens⟩
    exact ⟨d, List.mem_reverse.mpr last.mem, last, shortens⟩

/-- **A short form is read as the IRI that it was made of**, if its prefix has no colon; one
with a colon is read by what stands in front of that.  There is a short form exactly if a
declaration that counts has a namespace, not empty, that the IRI begins with. -/
theorem expand_compact (ns : Namespaces) (iri : String) :
    (∀ q, ns.compact iri = some q →
      ∃ (d : PrefixDeclaration) (rest : String),
        d.LastIn ns.declarations ∧ d.iri ≠ "" ∧ iri = d.iri ++ rest ∧
        q = d.name ++ ":" ++ rest ∧
        (':' ∉ d.name.toList → ns.expand q = .ok iri) ∧
        ∀ front back, d.name = front ++ ":" ++ back → ':' ∉ front.toList →
          ns.expand q = (ns.get front).map (· ++ (back ++ ":" ++ rest))) ∧
    ((ns.compact iri).isSome ↔
      ∃ d : PrefixDeclaration, d.LastIn ns.declarations ∧ d.iri ≠ "" ∧
        ∃ rest, iri = d.iri ++ rest) := by
  refine ⟨fun q short => ?_, isSome_compact⟩
  obtain ⟨d, rest, last, occupied, joined, written⟩ := compact_eq_some short
  refine ⟨d, rest, last, occupied, joined, written, ?_, ?_⟩
  · intro free
    have found : ns.get d.name = .ok d.iri := by
      rw [get, find?_eq_some.mpr last]
    rw [written, ns.expand_qname free, found, joined]
    rfl
  · intro front back cut free
    have parts : q = front ++ ":" ++ (back ++ ":" ++ rest) := by
      simp only [written, cut, String.append_assoc]
    rw [parts, ns.expand_qname free]

/-- Two namespaces for one prefix; the second one begins as the first one does. -/
def nested : Namespaces :=
  ((empty.declare "ex" "http://example.org/").declare "" "http://example.org/a/").declare "ex"
    "http://example.org/a/b/"

/-- The namespace that `ex` had first shortens nothing, and the newest one is taken first. -/
theorem nested_expand_compact :
    nested.compact "http://example.org/a/b/c:d" = some "ex:c:d" ∧
      nested.expand "ex:c:d" = .ok "http://example.org/a/b/c:d" ∧
      nested.compact "http://example.org/x" = none := by
  have short : nested.compact "http://example.org/a/b/c:d" = some "ex:c:d" := by decide +kernel
  obtain ⟨d, rest, last, -, -, -, read, -⟩ := (expand_compact nested _).1 _ short
  have free : ∀ d ∈ nested.declarations, ':' ∉ d.name.toList := by decide +kernel
  exact ⟨short, read (free d last.mem), by decide +kernel⟩

/-- A prefix with a colon, beside the prefix in front of that colon. -/
def colonPrefixed : Namespaces :=
  (empty.declare "a" "http://a.example/").declare "a:b" "http://b.example/"

/-- **A short form may stand for another IRI**: its prefix is cut at a colon of its own. -/
theorem colonPrefixed_misread :
    colonPrefixed.compact "http://b.example/c" = some "a:b:c" ∧
      colonPrefixed.expand "a:b:c" = .ok "http://a.example/b:c" ∧
      ¬ ∀ q, colonPrefixed.compact "http://b.example/c" = some q →
        colonPrefixed.expand q = .ok "http://b.example/c" := by
  have short : colonPrefixed.compact "http://b.example/c" = some "a:b:c" := by decide +kernel
  have read : colonPrefixed.expand "a:b:c" = .ok "http://a.example/b:c" := by decide +kernel
  refine ⟨short, read, fun back => ?_⟩
  have same := back _ short
  rw [read] at same
  exact absurd (Except.ok.inj same) (by decide +kernel)

end Namespaces

end GraphPattern
