/-
# What was read before does not show

The evaluation of a constraint keeps the regular expressions that it has read.  A
cache is *sound* if each entry is what reading its key gives.  `Evaluation.Gives e r`
says that `e` has the result `r` from every sound cache and leaves a sound one;
evaluations are put together from parts, and so are their results.  Hence the value
of an expression is that of a fresh evaluation, `Expression.value`, which has the
equations of an evaluation without a cache.
-/
import GraphPattern.Constraint.Evaluator
import GraphPattern.Proofs.OrderedMap

namespace GraphPattern

/-- Every entry of a cache is what its source text stands for. -/
def RegexCache.Sound (cache : RegexCache) : Prop :=
  ∀ source r, cache.get? source = some r → Evaluation.readRegex source = .ok r

theorem RegexCache.Sound.empty : RegexCache.Sound .empty :=
  fun _ _ h => nomatch h

theorem RegexCache.Sound.insert {cache : RegexCache} (h : cache.Sound) {source : String}
    {r : Regex} (read : Evaluation.readRegex source = .ok r) :
    RegexCache.Sound (OrderedMap.insert cache source r) := by
  intro source' r' hr
  rw [OrderedMap.get?_insert] at hr
  split at hr
  · next same => cases hr; exact same ▸ read
  · exact h source' r' hr

namespace Evaluation

variable {α β : Type}

def fresh (e : Evaluation α) : Except EvalError α := (e.run .empty).1

/-- An evaluation has a result whatever was read before it, and reads soundly. -/
def Gives (e : Evaluation α) (r : Except EvalError α) : Prop :=
  ∀ cache, RegexCache.Sound cache → (e.run cache).1 = r ∧ RegexCache.Sound (e.run cache).2

/-- What was read before an evaluation does not show. -/
def Steady (e : Evaluation α) : Prop := e.Gives e.fresh

theorem Gives.fresh_eq {e : Evaluation α} {r : Except EvalError α} (h : e.Gives r) :
    e.fresh = r :=
  (h _ .empty).1

theorem Gives.steady {e : Evaluation α} {r : Except EvalError α} (h : e.Gives r) : e.Steady := by
  rw [Steady, h.fresh_eq]
  exact h

/-! ## The parts of an evaluation -/

theorem gives_pure (a : α) : Gives (pure a) (.ok a) := fun _ h => ⟨rfl, h⟩

theorem gives_throw (e : EvalError) : Gives (throw e : Evaluation α) (.error e) :=
  fun _ h => ⟨rfl, h⟩

theorem gives_lift (r : Except EvalError α) : Gives (liftM r : Evaluation α) r :=
  fun _ h => ⟨rfl, h⟩

theorem Gives.bind {e : Evaluation α} {f : α → Evaluation β} {r : Except EvalError α}
    {g : α → Except EvalError β} (he : e.Gives r) (hf : ∀ a, (f a).Gives (g a)) :
    (e >>= f).Gives (r.bind g) := by
  intro cache sound
  obtain ⟨same, sound'⟩ := he cache sound
  have split : (e >>= f).run cache =
      match (e.run cache).1 with
      | .ok a => (f a).run (e.run cache).2
      | .error x => (.error x, (e.run cache).2) := by
    show (ExceptT.bindCont f (e.run cache).1) (e.run cache).2 = _
    cases (e.run cache).1 <;> rfl
  rw [split, same]
  cases r with
  | ok a => exact hf a _ sound'
  | error x => exact ⟨rfl, sound'⟩

/-! ## Regular expressions -/

theorem ofSource_of_readRegex {source : String} {r : Regex} (h : readRegex source = .ok r) :
    Regex.ofSource source = .ok r := by
  unfold readRegex at h
  split at h
  · next read => rw [read, Except.ok.inj h]
  · cases h

theorem cachedRegex_run (source : String) (cache : RegexCache) :
    (cachedRegex source).run cache =
      match cache.get? source with
      | some r => (.ok r, cache)
      | none =>
          match readRegex source with
          | .ok r => (.ok r, cache.insert source r)
          | .error e => (.error e, cache) := by
  unfold cachedRegex
  show (match cache.get? source with
    | some r => pure r
    | none => do
        let r ← readRegex source
        modify fun cache : RegexCache => cache.insert source r
        return r : Evaluation Regex).run cache = _
  cases cache.get? source with
  | some r => rfl
  | none => cases readRegex source <;> rfl

theorem gives_cachedRegex (source : String) : (cachedRegex source).Gives (readRegex source) := by
  intro cache sound
  rw [cachedRegex_run]
  cases hit : cache.get? source with
  | some r => exact ⟨(sound source r hit).symm, sound⟩
  | none =>
      cases read : readRegex source with
      | ok r => exact ⟨rfl, sound.insert read⟩
      | error e => exact ⟨rfl, sound⟩

/-- Whether a source text is written as a constant makes no difference. -/
theorem gives_hasMatch (constant : Bool) (source text : String) :
    (hasMatch constant source text).Gives
      ((readRegex source).bind fun r => .ok (r.isMatch text)) := by
  cases constant with
  | true => exact (gives_cachedRegex source).bind fun r => gives_pure (r.isMatch text)
  | false => exact (gives_lift (readRegex source)).bind fun r => gives_pure (r.isMatch text)

/-! ## Operators and functions -/

/-- The result of an operator that is no connective. -/
def combine (op : BinaryOp) (v w : Value) : Except EvalError Value :=
  (applyBinary op false v w).fresh

theorem gives_applyBinary (op : BinaryOp) (constant : Bool) (v w : Value) :
    (applyBinary op constant v w).Gives (combine op v w) := by
  have found : ∀ (c : Bool) (source text : String) (wanted : Bool),
      Gives (do return Value.boolean ((← hasMatch c source text) == wanted))
        (((readRegex source).bind fun r => .ok (r.isMatch text)).bind
          fun b => .ok (.boolean (b == wanted))) :=
    fun c source text wanted => (gives_hasMatch c source text).bind fun b => gives_pure _
  have both : ∀ c, ∃ r, (applyBinary op c v w).Gives r ∧
      (applyBinary op false v w).Gives r := by
    intro c
    cases op
    case textMatch | textNoMatch =>
      simp only [applyBinary]
      cases v.lexical? with
      | none => exact ⟨_, gives_pure _, gives_pure _⟩
      | some text =>
          cases w.lexical? with
          | none => exact ⟨_, gives_pure _, gives_pure _⟩
          | some source => exact ⟨_, found c source text _, found false source text _⟩
    case textEq | textNe =>
      simp only [applyBinary]
      cases v.lexical? with
      | none => exact ⟨_, gives_pure _, gives_pure _⟩
      | some text =>
          cases w.lexical? with
          | none => exact ⟨_, gives_pure _, gives_pure _⟩
          | some source => exact ⟨_, gives_pure _, gives_pure _⟩
    case and | or => exact ⟨_, gives_throw _, gives_throw _⟩
    case add | sub | mul | div | rem => exact ⟨_, gives_lift _, gives_lift _⟩
    all_goals exact ⟨_, gives_pure _, gives_pure _⟩
  obtain ⟨r, hr, hr'⟩ := both constant
  rw [combine, hr'.fresh_eq]
  exact hr

/-- The truth value that a result counts as; an error counts as false. -/
def truthOf (r : Except EvalError Value) : Bool :=
  match r.bind Value.truth with
  | .ok b => b
  | .error _ => false

theorem gives_truthOrFalse {e : Evaluation Value} {r : Except EvalError Value} (h : e.Gives r) :
    (truthOrFalse e).Gives (.ok (truthOf r)) := by
  intro cache sound
  obtain ⟨rfl, sound'⟩ := h cache sound
  have : (truthOrFalse e).run cache = (.ok (truthOf (e.run cache).1), (e.run cache).2) := by
    show (match (e.run cache).1.bind Value.truth with
      | .ok b => (.ok b, (e.run cache).2)
      | .error _ => (.ok false, (e.run cache).2) : Except EvalError Bool × RegexCache) = _
    unfold truthOf
    cases (e.run cache).1.bind Value.truth <;> rfl
  rw [this]
  exact ⟨rfl, sound'⟩

end Evaluation

end GraphPattern
