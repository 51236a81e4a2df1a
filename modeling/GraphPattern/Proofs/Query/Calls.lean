/-
# The calls of a pass over an expression

A pass calls its step for the leaves of an expression, and the step may put another
expression in place of each.  To speak of its calls they are written down: `Pass.noting` is
the step that does so, and the pass with it comes to the same in everything else.  So the
calls that it has noted, `Expression.calls`, are those of the pass.

They are on the leaves that the expression has at the beginning, from left to right, and each
finds the state that the one before it has left (`Threaded`).  What a call puts in place of a
leaf may have leaves of its own, and none of them is called for.  If no call fails, there is
one for each leaf.  A call that fails is the last: what it leaves takes the place of its leaf
as well, and the leaves behind stay (`visitLeaves_calls`).

All this is shown of a row of elements first (`Course`), by induction on it; an expression is
what the row of its leaves makes of it.
-/
import GraphPattern.Proofs.Query.Traversal

namespace GraphPattern

namespace Pass

variable {σ ε α β γ : Type}

/-- A call of a step: the state that it finds, the element, and what it comes to. -/
structure Call (σ ε α β : Type) where
  found : σ
  given : α
  outcome : Pass σ ε β

/-- A call passes if it does not fail. -/
def Call.Passes (c : Call σ ε α β) : Prop := c.outcome.failure = none

/-- What is left where calls passed or failed, in their order. -/
def leftBy (calls : List (Call σ ε α β)) : List β := calls.map fun c => c.outcome.result

/-- A pass with calls beside its state. -/
def withCalls (p : Pass σ ε γ) (calls : List (Call σ ε α β)) :
    Pass (σ × List (Call σ ε α β)) ε γ :=
  ⟨p.result, (p.state, calls), p.failure⟩

/-- A step that notes its calls, the last one at the end. -/
def noting (f : σ → α → Pass σ ε β) (noted : σ × List (Call σ ε α β)) (a : α) :
    Pass (σ × List (Call σ ε α β)) ε β :=
  (f noted.1 a).withCalls (noted.2 ++ [⟨noted.1, a, f noted.1 a⟩])

/-- Calls of a step, one after the other: the first finds `s`, every other one finds the state
that the call before it has left, and the last leaves `s'`. -/
inductive Threaded (f : σ → α → Pass σ ε β) : σ → List (Call σ ε α β) → σ → Prop where
  | nil (s : σ) : Threaded f s [] s
  | cons {s s' : σ} (a : α) {calls : List (Call σ ε α β)}
      (rest : Threaded f (f s a).state calls s') : Threaded f s (⟨s, a, f s a⟩ :: calls) s'

/-- The calls of a pass over a row of elements: on as many elements as there are calls, from
the front on.  What they leave stands there, the elements behind are kept, and the first call
that fails is the last. -/
structure Course (f : σ → α → Pass σ ε β) (kept : α → β) (s : σ) (as : List α)
    (calls : List (Call σ ε α β)) (p : Pass σ ε (List β)) : Prop where
  threaded : Threaded f s calls p.state
  given : calls.map (·.given) = as.take calls.length
  result : p.result = leftBy calls ++ (as.drop calls.length).map kept
  ended : (∀ c ∈ calls, c.Passes) → calls.length = as.length ∧ p.failure = none
  stopped : ∀ k c e, calls[k]? = some c → c.outcome.failure = some e →
    calls.length = k + 1 ∧ p.failure = some e

variable {f : σ → α → Pass σ ε β} {kept : α → β} {s : σ}

theorem Course.nil : Course f kept s [] [] (keep [] s) where
  threaded := .nil s
  given := rfl
  result := rfl
  ended _ := ⟨rfl, rfl⟩
  stopped := nofun

theorem Course.failed {a : α} {e : ε} (fails : (f s a).failure = some e) (as : List α) :
    Course f kept s (a :: as) [⟨s, a, f s a⟩]
      ⟨(f s a).result :: as.map kept, (f s a).state, some e⟩ where
  threaded := .cons a (.nil _)
  given := rfl
  result := rfl
  ended passes := by
    have first : (f s a).failure = none := passes _ (List.mem_singleton_self _)
    rw [fails] at first
    cases first
  stopped k c e' here fails' := by
    cases k with
    | zero =>
        cases here
        exact ⟨rfl, fails.symm.trans fails'⟩
    | succ k => cases here

theorem Course.passed {a : α} (passes : (f s a).failure = none) {as : List α}
    {calls : List (Call σ ε α β)} {p : Pass σ ε (List β)}
    (h : Course f kept (f s a).state as calls p) :
    Course f kept s (a :: as) (⟨s, a, f s a⟩ :: calls)
      (p.mapResult (List.cons (f s a).result)) where
  threaded := .cons a h.threaded
  given := congrArg (List.cons a) h.given
  result := congrArg (List.cons (f s a).result) h.result
  ended all := by
    obtain ⟨length, failure⟩ := h.ended fun c mem => all c (List.mem_cons_of_mem _ mem)
    exact ⟨congrArg Nat.succ length, failure⟩
  stopped k c e here fails := by
    cases k with
    | zero =>
        cases here
        rw [show (f s a).failure = some e from fails] at passes
        cases passes
    | succ k =>
        obtain ⟨length, failure⟩ := h.stopped k c e here fails
        exact ⟨congrArg Nat.succ length, failure⟩

/-- A row whose step notes its calls comes to the same as without, and has a course. -/
theorem row_noting (f : σ → α → Pass σ ε β) (kept : α → β) (s : σ) (as : List α)
    (noted : List (Call σ ε α β)) :
    ∃ calls, Course f kept s as calls (row f kept s as) ∧
      row (noting f) kept (s, noted) as = (row f kept s as).withCalls (noted ++ calls) := by
  -- every step adds its call to those that are noted, so these are general
  induction as generalizing s noted with
  | nil => exact ⟨[], .nil, by rw [List.append_nil]; rfl⟩
  | cons a as ih =>
      rw [row, row]
      cases failed : (f s a).failure with
      | some e =>
          have failed' : (noting f (s, noted) a).failure = some e := failed
          rw [andThen_of_failed failed, andThen_of_failed failed']
          exact ⟨[⟨s, a, f s a⟩], .failed failed as, rfl⟩
      | none =>
          have passed : (noting f (s, noted) a).failure = none := failed
          rw [andThen_of_passed failed, andThen_of_passed passed]
          obtain ⟨calls, course, same⟩ := ih (f s a).state (noted ++ [⟨s, a, f s a⟩])
          refine ⟨⟨s, a, f s a⟩ :: calls, .passed failed course, ?_⟩
          have behind : row (noting f) kept (noting f (s, noted) a).state as = _ := same
          rw [behind, List.append_assoc]
          rfl

end Pass

namespace Expression

open Pass

variable {σ ε : Type}

/-- The calls of a pass over an expression, as the pass notes them. -/
def calls (f : σ → PatternTerm → Pass σ ε Expression) (s : σ) (e : Expression) :
    List (Call σ ε PatternTerm Expression) :=
  (e.visitLeaves (noting f) (s, [])).state.2

/-- **A pass calls for every leaf once, from left to right, and stops cleanly.**  With calls
that are noted it comes to the same, and the state goes through them.  If none of them fails,
they are on the leaves of the expression, and what they leave takes the places of the leaves
between the operators.  If one fails it is the last, and the pass fails as it does: the leaves
up to there are replaced by what was left for them, and those behind are as they were. -/
theorem visitLeaves_calls (f : σ → PatternTerm → Pass σ ε Expression) (s : σ) (e : Expression) :
    let p := e.visitLeaves f s
    let calls := e.calls f s
    e.visitLeaves (noting f) (s, []) = p.withCalls calls ∧
      Threaded f s calls p.state ∧
      ((∀ c ∈ calls, c.Passes) →
        calls.map (·.given) = e.leaves ∧ p.failure = none ∧ p.result = e.graft (leftBy calls)) ∧
      ∀ k c failure, calls[k]? = some c → c.outcome.failure = some failure →
        calls.length = k + 1 ∧ calls.map (·.given) = e.leaves.take (k + 1) ∧
          p.failure = some failure ∧
          p.result = e.graft (leftBy calls ++ (e.leaves.drop (k + 1)).map leaf) := by
  intro p calls
  obtain ⟨noted, course, same⟩ := row_noting f leaf s e.leaves []
  have through : p = (row f leaf s e.leaves).mapResult e.graft := visitLeaves_row f e s
  have noting : e.visitLeaves (noting f) (s, []) = p.withCalls noted := by
    rw [visitLeaves_row, same, through]
    rfl
  obtain rfl : calls = noted := congrArg (·.state.2) noting
  have result : p.result =
      e.graft (leftBy calls ++ (e.leaves.drop calls.length).map leaf) := by
    rw [through, ← course.result]
    rfl
  refine ⟨noting, ?_, ?_, ?_⟩
  · rw [through]
    exact course.threaded
  · intro passes
    obtain ⟨length, failure⟩ := course.ended passes
    refine ⟨?_, ?_, ?_⟩
    · rw [course.given, length, List.take_length]
    · rw [through]
      exact failure
    · rw [result, length, List.drop_length, List.map_nil, List.append_nil]
  · intro k c failure here fails
    obtain ⟨length, failure⟩ := course.stopped k c _ here fails
    refine ⟨length, ?_, ?_, ?_⟩
    · rw [course.given, length]
    · rw [through]
      exact failure
    · rw [result, length]

/-- Puts the sum of a leaf and its number in place of the leaf, and fails at number two. -/
def addNumber (n : Nat) (t : PatternTerm) : Pass Nat String Expression :=
  ⟨binary .add (leaf t) (const (.literal (.ofInt n))), n + 1, if n = 2 then some "two" else none⟩

example :
    let named := fun name => leaf (.named name)
    let e := both (call "f" [named "a", unary .not (named "b")]) (both (named "c") (named "d"))
    let sum := fun name n => binary .add (named name) (const (.literal (.ofInt n)))
    let e' := both (call "f" [sum "a" 0, unary .not (sum "b" 1)]) (both (sum "c" 2) (named "d"))
    e.visitLeaves addNumber 0 = ⟨e', 3, some "two"⟩ ∧
      (e.calls addNumber 0).map (·.given) = [.named "a", .named "b", .named "c"] :=
  ⟨rfl, rfl⟩

end Expression

end GraphPattern
