/-
# The engine that a key leads to

Builders may rename their engines and may give them any short name and any URI, so keys of the
three kinds can be the same.  Whatever was registered and cleared, an engine is filed under the
name that it has (`Filed`).  So a key leads to the engine of that name, or else to the first
engine in the order of the names that has it for its short name or its URI (`First`).

That a refused registration does not run its builder says nothing about a builder that is a
function; so it is said of builders with effects.
-/
import GraphPattern.Proofs.Registry

namespace GraphPattern

/-- A key is the short name or the URI of an engine. -/
def Engine.Called (e : Engine) (key : String) : Prop := e.shortName = some key ∨ e.uri = some key

theorem Engine.answersTo_iff {e : Engine} {key : String} :
    e.answersTo key = true ↔ e.name = key ∨ e.Called key := by
  rw [answersTo, Bool.or_eq_true, Bool.or_eq_true, decide_eq_true_iff, decide_eq_true_iff,
    decide_eq_true_iff, or_assoc]
  exact Iff.rfl

/-- What may be done to a registry. -/
inductive RegistryStep where
  | register (a : Registration)
  | clear

namespace Registry

variable {r : Registry} {a : Registration} {e : Engine} {key : String}

def step (r : Registry) : RegistryStep → Registry
  | .register a => r.after a
  | .clear => r.clear

def steps (r : Registry) (ss : List RegistryStep) : Registry := ss.foldl step r

/-- A new registry, with the built-in engine or without it. -/
def opened (defaults : Bool) : Registry := if defaults then withDefaults else empty

/-! ## Engines are filed under their own names -/

/-- Engines are filed under their own names. -/
def Filed (r : Registry) : Prop := ∀ entry ∈ r.engines.entries, entry.1 = entry.2.name

theorem Filed.empty : empty.Filed := by
  intro entry mem
  cases mem

theorem Filed.file (h : r.Filed) (e : Engine) : (r.file e).Filed := by
  intro entry mem
  rcases OrderedMap.mem_write mem with rfl | there
  · rfl
  · exact h entry there

theorem Filed.step (h : r.Filed) (s : RegistryStep) : (r.step s).Filed := by
  cases s with
  | register a =>
      show (r.after a).Filed
      rcases r.answer_cases a with ⟨-, -, same⟩ | ⟨-, -, filed⟩
      · exact same.symm ▸ h
      · exact filed.symm ▸ h.file a.engine
  | clear => exact .empty

theorem Filed.steps (h : r.Filed) (ss : List RegistryStep) : (r.steps ss).Filed := by
  induction ss generalizing r with
  | nil => exact h
  | cons s ss ih => exact ih (h.step s)

theorem filed_opened (defaults : Bool) : (opened defaults).Filed := by
  cases defaults with
  | false => exact .empty
  | true => exact Filed.empty.file .triples

theorem Filed.names_eq (h : r.Filed) : r.names = r.engines.values.map (·.name) := by
  show r.engines.entries.map (·.1) = (r.engines.entries.map (·.2)).map (·.name)
  rw [List.map_map]
  exact List.map_congr_left h

theorem Filed.get?_iff (h : r.Filed) :
    r.engines.get? key = some e ↔ e ∈ r.engines.values ∧ e.name = key := by
  rw [OrderedMap.get?_eq_some_iff]
  constructor
  · intro mem
    exact ⟨List.mem_map.mpr ⟨(key, e), mem, rfl⟩, (h (key, e) mem).symm⟩
  · rintro ⟨mem, rfl⟩
    obtain ⟨⟨k, e'⟩, mem', rfl⟩ := List.mem_map.mp mem
    have own : k = e'.name := h (k, e') mem'
    exact own ▸ mem'

theorem Filed.get?_none (h : r.Filed) :
    r.engines.get? key = none ↔ ∀ e ∈ r.engines.values, e.name ≠ key := by
  constructor
  · intro missing e mem named
    rw [h.get?_iff.mpr ⟨mem, named⟩] at missing
    cases missing
  · intro other
    cases found : r.engines.get? key with
    | none => rfl
    | some e =>
        obtain ⟨mem, named⟩ := h.get?_iff.mp found
        exact absurd named (other e mem)

/-! ## Looking a key up -/

/-- An engine is the first one, in the order of the names, that has a key for its short name
or its URI. -/
def First (r : Registry) (key : String) (e : Engine) : Prop :=
  ∃ before after, r.engines.values = before ++ e :: after ∧ e.Called key ∧
    ∀ e' ∈ before, ¬ e'.Called key

/-- The search for what is not a name ends at the first engine that is called so. -/
theorem find?_iff_first (other : ∀ e ∈ r.engines.values, e.name ≠ key) :
    r.engines.values.find? (·.answersTo key) = some e ↔ r.First key e := by
  have called : ∀ e' ∈ r.engines.values, (e'.answersTo key = true ↔ e'.Called key) := by
    intro e' mem
    rw [Engine.answersTo_iff]
    exact or_iff_right (other e' mem)
  rw [List.find?_eq_some_iff_append]
  constructor
  · rintro ⟨answers, before, after, cut, none⟩
    have mem : e ∈ r.engines.values := by rw [cut]; simp
    refine ⟨before, after, cut, (called e mem).mp answers, ?_⟩
    intro e' mem' answers'
    have there : e' ∈ r.engines.values := by rw [cut]; exact List.mem_append_left _ mem'
    have not : e'.answersTo key ≠ true := by simpa using none e' mem'
    exact not ((called e' there).mpr answers')
  · rintro ⟨before, after, cut, answers, none⟩
    have mem : e ∈ r.engines.values := by rw [cut]; simp
    refine ⟨(called e mem).mpr answers, before, after, cut, ?_⟩
    intro e' mem'
    have there : e' ∈ r.engines.values := by rw [cut]; exact List.mem_append_left _ mem'
    have not : e'.answersTo key ≠ true := mt (called e' there).mp (none e' mem')
    simpa using not

theorem lookup_of_none (missing : r.engines.get? key = none) :
    r.lookup key =
      (r.engines.values.find? (·.answersTo key)).elim (.error (.notFound key)) .ok := by
  simp only [lookup, missing]
  cases r.engines.values.find? (·.answersTo key) with
  | none => rfl
  | some e => rfl

/-- What a lookup finds: the engine of that name, or else the first that is called so. -/
theorem Filed.lookup_ok (h : r.Filed) :
    r.lookup key = .ok e ↔
      (e ∈ r.engines.values ∧ e.name = key) ∨ (key ∉ r.names ∧ r.First key e) := by
  have named : key ∈ r.names ↔ (r.engines.get? key).isSome = true := OrderedMap.mem_keys
  cases found : r.engines.get? key with
  | some e' =>
      rw [found] at named
      have there : key ∈ r.names := named.mpr rfl
      rw [lookup_of_get? found, ← h.get?_iff, found]
      constructor
      · rintro ⟨⟩
        exact .inl rfl
      · rintro (⟨⟨⟩⟩ | ⟨new, -⟩)
        · rfl
        · exact absurd there new
  | none =>
      rw [found] at named
      have new : key ∉ r.names := mt named.mp Bool.false_ne_true
      have other := h.get?_none.mp found
      rw [← h.get?_iff, found, ← find?_iff_first other, lookup_of_none found]
      cases r.engines.values.find? (·.answersTo key) with
      | none => simp
      | some e' => simp [new]

theorem Filed.lookup_error (h : r.Filed) {failure : QueryError} :
    r.lookup key = .error failure ↔ failure = .notFound key ∧
      ∀ e ∈ r.engines.values, e.name ≠ key ∧ ¬ e.Called key := by
  have none_iff : (∀ e ∈ r.engines.values, e.name ≠ key ∧ ¬ e.Called key) ↔
      r.engines.values.find? (·.answersTo key) = none := by
    rw [List.find?_eq_none]
    simp only [Engine.answersTo_iff, not_or, ne_eq]
  rw [none_iff]
  cases found : r.engines.get? key with
  | some e =>
      obtain ⟨mem, named⟩ := h.get?_iff.mp found
      have answers : e.answersTo key = true := Engine.answersTo_iff.mpr (.inl named)
      rw [lookup_of_get? found]
      constructor
      · rintro ⟨⟩
      · rintro ⟨-, none⟩
        exact absurd answers (List.find?_eq_none.mp none e mem)
  | none =>
      rw [lookup_of_none found]
      cases r.engines.values.find? (·.answersTo key) with
      | none => simp [eq_comm]
      | some e => simp

/-! ## Builders that do something -/

/-- A builder without effects is run as a function, in any monad. -/
theorem registerWith_pure {m : Type → Type} [Monad m] [LawfulMonad m] (r : Registry)
    (a : Registration) :
    r.registerWith (m := m) a.name a.label a.shortName a.uri (fun e => pure (a.build e)) =
      pure (r.call a) := by
  rw [call, register, registerWith, registerWith]
  split
  · rfl
  · rw [pure_bind]
    rfl

theorem call_fails_iff {failure : QueryError} :
    (r.call a).1 = .error failure ↔ a.name ∈ r.names ∧ failure = .duplicateName a.name := by
  constructor
  · intro fails
    by_cases there : a.name ∈ r.names
    · rw [call_refused there] at fails
      exact ⟨there, (Except.error.inj fails).symm⟩
    · rw [call_accepted there] at fails
      cases fails
  · rintro ⟨there, rfl⟩
    rw [call_refused there]

theorem registerWith_refused {m : Type → Type} [Monad m] (there : a.name ∈ r.names)
    (build : Engine → m Engine) :
    r.registerWith a.name a.label a.shortName a.uri build =
      pure (.error (.duplicateName a.name), r) :=
  if_pos (OrderedMap.contains_iff.mpr there)

/-- **What a registry leads to.**  Whatever was registered and cleared, engines are filed under
their own names, which are distinct and in the order of the engines.  A lookup fails just if no
engine has the key for its name, its short name or its URI; otherwise it finds the engine of
that name, or else the first one that has the key for its short name or its URI.  A registration
that is refused does nothing but say so: its builder does not run, whatever effects it has, and
every key leads to where it led. -/
theorem lookup_exact (defaults : Bool) (ss : List RegistryStep) :
    let r := (opened defaults).steps ss
    (∀ entry ∈ r.engines.entries, entry.1 = entry.2.name) ∧
      r.names = r.engines.values.map (·.name) ∧ r.names.Nodup ∧
      (∀ key failure, r.lookup key = .error failure ↔ failure = .notFound key ∧
        ∀ e ∈ r.engines.values, e.name ≠ key ∧ e.shortName ≠ some key ∧ e.uri ≠ some key) ∧
      (∀ key e, r.lookup key = .ok e ↔
        (e ∈ r.engines.values ∧ e.name = key) ∨ (key ∉ r.names ∧ r.First key e)) ∧
      (∀ (m : Type → Type) [Monad m] [LawfulMonad m] (a : Registration),
        r.registerWith (m := m) a.name a.label a.shortName a.uri (fun e => pure (a.build e)) =
          pure (r.call a)) ∧
      ∀ (a : Registration) (failure : QueryError), (r.call a).1 = .error failure →
        (∀ (m : Type → Type) [Monad m] (build : Engine → m Engine),
          r.registerWith a.name a.label a.shortName a.uri build = pure (.error failure, r)) ∧
        ∀ key, (r.after a).lookup key = r.lookup key := by
  intro r
  have filed : r.Filed := (filed_opened defaults).steps ss
  refine ⟨filed, filed.names_eq, r.engines.distinct, ?_, fun key e => filed.lookup_ok,
    fun m _ _ => r.registerWith_pure, ?_⟩
  · intro key failure
    have fails : r.lookup key = .error failure ↔ failure = .notFound key ∧
        ∀ e ∈ r.engines.values, e.name ≠ key ∧ ¬ e.Called key := filed.lookup_error
    simpa only [Engine.Called, not_or] using fails
  · intro a failure fails
    obtain ⟨there, rfl⟩ := call_fails_iff.mp fails
    refine ⟨fun m _ build => registerWith_refused there build, ?_⟩
    intro key
    rcases r.answer_cases a with ⟨-, -, same⟩ | ⟨new, -, -⟩
    · rw [same]
    · exact absurd there new

/-- Two engines have the same short name, and the first one is found.  The second one cannot
be registered again. -/
theorem first_is_found :
    let line : Registration := ⟨"line", "One-line patterns", some "p", none, id⟩
    let rdql : Registration := ⟨"rdql", "RDQL", some "p", none, id⟩
    let r := (opened true).steps [.register line, .clear, .register line, .register rdql]
    r.lookup "p" = .ok line.engine ∧ r.call rdql = (.error (.duplicateName "rdql"), r) ∧
      ∀ key, (r.after rdql).lookup key = r.lookup key := by
  intro line rdql r
  have refused : r.call rdql = (.error (.duplicateName "rdql"), r) := call_refused (by decide)
  obtain ⟨-, -, -, -, found, -, refuses⟩ :=
    lookup_exact true [.register line, .clear, .register line, .register rdql]
  have first : r.First "p" line.engine := by
    refine ⟨[], [rdql.engine], rfl, .inl rfl, ?_⟩
    intro e' mem
    cases mem
  exact ⟨(found "p" line.engine).mpr (.inr ⟨by decide, first⟩), refused,
    (refuses rdql _ (congrArg Prod.fst refused)).2⟩

end Registry

end GraphPattern
