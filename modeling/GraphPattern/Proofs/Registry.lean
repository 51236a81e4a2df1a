/-
# What becomes of a registration

A registration is refused if the name that it is called with is there.  The engine is filed
under the name that its builder has left, which may be another.  So a registry only grows,
but a name leads to the engine that was returned last under it: to the first one only as long
as builders bring new names (`Adds`), and `impostor_replaces` is a builder that does not.
-/
import GraphPattern.Proofs.OrderedMap
import GraphPattern.Registry

namespace GraphPattern

/-- What a registration is called with. -/
structure Registration where
  name : String
  label : String
  shortName : Option String
  uri : Option String
  build : Engine → Engine

/-- The engine that a registration is about, once its builder has run. -/
def Registration.engine (a : Registration) : Engine :=
  a.build ⟨a.name, a.label, a.shortName, none, a.uri, .patterns⟩

namespace Registry

variable {r : Registry} {a : Registration} {e : Engine} {name : String}

/-! ## One registration -/

/-- What a registration returns, and the registry after it. -/
def call (r : Registry) (a : Registration) : Except QueryError Engine × Registry :=
  r.register a.name a.label a.shortName a.uri a.build

/-- The engine that a registration returns, if it is not refused. -/
def answer (r : Registry) (a : Registration) : Option Engine := (r.call a).1.toOption

def after (r : Registry) (a : Registration) : Registry := (r.call a).2

theorem call_refused (h : a.name ∈ r.names) : r.call a = (.error (.duplicateName a.name), r) := by
  have there : r.engines.contains a.name = true := OrderedMap.contains_iff.mpr h
  rw [call, register, registerWith, if_pos there]
  rfl

theorem call_accepted (h : a.name ∉ r.names) : r.call a = (.ok a.engine, r.file a.engine) := by
  have new : ¬ r.engines.contains a.name = true := mt OrderedMap.contains_iff.mp h
  rw [call, register, registerWith, if_neg new]
  rfl

theorem answer_cases (r : Registry) (a : Registration) :
    a.name ∈ r.names ∧ r.answer a = none ∧ r.after a = r ∨
      a.name ∉ r.names ∧ r.answer a = some a.engine ∧ r.after a = r.file a.engine := by
  by_cases there : a.name ∈ r.names
  · rw [answer, after, call_refused there]
    exact .inl ⟨there, rfl, rfl⟩
  · rw [answer, after, call_accepted there]
    exact .inr ⟨there, rfl, rfl⟩

theorem names_file (r : Registry) (e : Engine) : (r.file e).names = insertNew r.names e.name :=
  r.engines.keys_insert e.name e

theorem names_after (r : Registry) (a : Registration) : r.names <+: (r.after a).names := by
  rcases r.answer_cases a with ⟨-, -, same⟩ | ⟨-, -, filed⟩
  · exact same.symm ▸ List.prefix_rfl
  · rw [filed, names_file]
    exact prefix_insertNew r.names a.engine.name

theorem get?_after (r : Registry) (a : Registration) (name : String) :
    (r.after a).engines.get? name =
      ((r.answer a).filter (·.name = name)).or (r.engines.get? name) := by
  rcases r.answer_cases a with ⟨-, refused, same⟩ | ⟨-, returned, filed⟩
  · rw [refused, same]
    rfl
  · have found : (r.file a.engine).engines.get? name =
        if a.engine.name = name then some a.engine else r.engines.get? name :=
      r.engines.get?_insert a.engine.name name a.engine
    rw [returned, filed, found]
    by_cases same : a.engine.name = name <;> simp [Option.filter, same]

/-! ## Registrations in turn -/

def afterAll (r : Registry) (as : List Registration) : Registry := as.foldl after r

/-- The engines that registrations return, one after the other. -/
def returned (r : Registry) : List Registration → List Engine
  | [] => []
  | a :: as => (r.answer a).toList ++ (r.after a).returned as

theorem names_afterAll (r : Registry) (as : List Registration) :
    r.names <+: (r.afterAll as).names := by
  induction as generalizing r with
  | nil => exact List.prefix_rfl
  | cons a as ih => exact (r.names_after a).trans (ih (r.after a))

theorem size_eq (r : Registry) : r.size = r.names.length :=
  (List.length_map ..).symm

/-- A name leads to the engine that was returned last under it. -/
theorem get?_afterAll (r : Registry) (as : List Registration) (name : String) :
    (r.afterAll as).engines.get? name =
      ((r.returned as).reverse.find? (·.name = name)).or (r.engines.get? name) := by
  induction as generalizing r with
  | nil => rfl
  | cons a as ih =>
      have first : (r.answer a).toList.reverse.find? (fun e => decide (e.name = name)) =
          (r.answer a).filter (·.name = name) := by
        cases r.answer a with
        | none => rfl
        | some e => simp [List.find?_singleton, Option.filter_some]
      show ((r.after a).afterAll as).engines.get? name = _
      rw [ih, get?_after, returned, List.reverse_append, List.find?_append, first, Option.or_assoc]

theorem lookup_of_get? (h : r.engines.get? name = some e) : r.lookup name = .ok e := by
  rw [lookup, h]

/-! ## Builders that bring new names -/

/-- No engine is returned under a name that is there: if its name is, so is the one that the
registration is called with. -/
def Adds (r : Registry) : List Registration → Prop
  | [] => True
  | a :: as => (a.engine.name ∈ r.names → a.name ∈ r.names) ∧ (r.after a).Adds as

theorem Adds.get?_afterAll {as : List Registration} (h : r.Adds as)
    (found : r.engines.get? name = some e) : (r.afterAll as).engines.get? name = some e := by
  induction as generalizing r with
  | nil => exact found
  | cons a as ih =>
      obtain ⟨brings, rest⟩ := h
      refine ih rest ?_
      rw [get?_after, found]
      rcases r.answer_cases a with ⟨-, refused, -⟩ | ⟨new, returned, -⟩
      · rw [refused]
        rfl
      · have other : a.engine.name ≠ name := by
          rintro rfl
          exact new (brings (OrderedMap.mem_keys.mpr (by rw [found]; rfl)))
        simp [returned, Option.filter, other]

/-- **What becomes of a registration.**  If the name that it is called with is there, it is
refused and changes nothing; otherwise it returns its engine, and whatever is registered
later, the engine's name leads to the one that was returned last under this name.  Names stay
and the size does not decrease.  As long as builders bring new names, a registration is
refused too if the name of its engine is there, and an engine that was returned is always
found under its name. -/
theorem registration_stays (r : Registry) (a : Registration) (later : List Registration) :
    let r' := r.after a
    let last := r'.afterAll later
    (a.name ∈ r.names → r.call a = (.error (.duplicateName a.name), r) ∧ r' = r) ∧
      (a.name ∉ r.names → r.call a = (.ok a.engine, r') ∧
        last.lookup a.engine.name =
          .ok (((r'.returned later).reverse.find? (·.name = a.engine.name)).getD a.engine)) ∧
      r.names <+: last.names ∧ r.size ≤ last.size ∧
      (r.Adds (a :: later) →
        (a.engine.name ∈ r.names → r.call a = (.error (.duplicateName a.name), r) ∧ r' = r) ∧
        (a.name ∉ r.names → last.lookup a.engine.name = .ok a.engine)) := by
  intro r' last
  have refused : a.name ∈ r.names →
      r.call a = (.error (.duplicateName a.name), r) ∧ r' = r := by
    intro there
    have call := call_refused there
    exact ⟨call, congrArg Prod.snd call⟩
  have filed : a.name ∉ r.names → r' = r.file a.engine ∧
      r'.engines.get? a.engine.name = some a.engine := by
    intro new
    rcases r.answer_cases a with ⟨there, -, -⟩ | ⟨-, returned, filed⟩
    · exact absurd there new
    · refine ⟨filed, ?_⟩
      rw [get?_after, returned]
      simp
  have stay : r.names <+: last.names := r.names_afterAll (a :: later)
  refine ⟨refused, ?_, stay, ?_, ?_⟩
  · intro new
    obtain ⟨same, found⟩ := filed new
    refine ⟨by rw [call_accepted new, same], lookup_of_get? ?_⟩
    rw [get?_afterAll, found]
    cases (r'.returned later).reverse.find? (·.name = a.engine.name) <;> rfl
  · rw [size_eq, size_eq]
    exact stay.length_le
  · rintro ⟨brings, rest⟩
    exact ⟨fun there => refused (brings there),
      fun new => lookup_of_get? (rest.get?_afterAll (filed new).2)⟩

/-- An engine is registered, then another one, and then the first name again. -/
theorem line_stays :
    let line : Registration := ⟨"line", "One-line patterns", some "l", none, id⟩
    let rdql : Registration := ⟨"rdql", "RDQL", none, none,
      fun e => { e with mimeType := some "text/plain" }⟩
    let last := (withDefaults.after line).afterAll [rdql, line]
    line.name ∉ withDefaults.names ∧ withDefaults.Adds [line, rdql, line] ∧
      last.lookup "line" = .ok line.engine ∧ withDefaults.size ≤ last.size := by
  intro line rdql last
  have adds : withDefaults.Adds [line, rdql, line] :=
    ⟨by decide, by decide, by decide, trivial⟩
  obtain ⟨-, -, -, size, stays⟩ := registration_stays withDefaults line [rdql, line]
  exact ⟨by decide, adds, (stays adds).2 (by decide), size⟩

/-- A builder that gives its engine the name of the built-in one. -/
def impostor : Registration :=
  ⟨"q", "over", none, none, fun e => { e with name := Engine.triples.name }⟩

/-- It is not refused, and its engine takes the place of the built-in one. -/
theorem impostor_replaces :
    impostor.engine.name ∈ withDefaults.names ∧
      withDefaults.call impostor = (.ok impostor.engine, withDefaults.after impostor) ∧
      (withDefaults.lookup "triples").map (·.label) = .ok "Triple patterns" ∧
      ((withDefaults.after impostor).lookup "triples").map (·.label) = .ok "over" ∧
      (withDefaults.after impostor).size = withDefaults.size :=
  ⟨by decide, rfl, rfl, rfl, rfl⟩

end Registry

end GraphPattern
