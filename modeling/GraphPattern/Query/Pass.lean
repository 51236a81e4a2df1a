/-
Passes over patterns and expressions that may stop.

A pass visits the positions of patterns, or the leaves of expressions, from left
to right and hands each to a step, which replaces it and carries a state along.
When a step fails the pass stops: what came before is replaced, what comes after is
as it was.
-/
import GraphPattern.Query.Expression

namespace GraphPattern

/-- Where a pass has come to: what stands there now, its state, and the failure
that stopped it. -/
structure Pass (σ ε α : Type) where
  result : α
  state : σ
  failure : Option ε

namespace Pass

variable {σ ε α β : Type}

/-- Nothing replaced, nothing failed. -/
def keep (a : α) (s : σ) : Pass σ ε α := ⟨a, s, none⟩

/-- Goes on with a second part, or leaves it as it is, `rest`, after a failure. -/
def andThen {γ : Type} (p : Pass σ ε α) (rest : β) (go : σ → Pass σ ε β) (join : α → β → γ) :
    Pass σ ε γ :=
  match p.failure with
  | some e => ⟨join p.result rest, p.state, some e⟩
  | none =>
    let q := go p.state
    ⟨join p.result q.result, q.state, q.failure⟩

def mapResult (f : α → β) (p : Pass σ ε α) : Pass σ ε β := ⟨f p.result, p.state, p.failure⟩

def list (f : σ → α → Pass σ ε α) : σ → List α → Pass σ ε (List α)
  | s, [] => keep [] s
  | s, a :: as => (f s a).andThen as (fun s => list f s as) List.cons

end Pass

variable {σ ε : Type}

def TriplePattern.visit (f : σ → PatternTerm → Pass σ ε PatternTerm) (s : σ) (p : TriplePattern) :
    Pass σ ε TriplePattern :=
  ((f s p.subject).andThen p.predicate (fun s => f s p.predicate) Prod.mk).andThen p.object
    (fun s => f s p.object) fun front object => ⟨front.1, front.2, object⟩

mutual

/-- Visits the leaves of an expression; a leaf may become an expression, which is
not visited. -/
def Expression.visitLeaves (f : σ → PatternTerm → Pass σ ε Expression) (s : σ) :
    Expression → Pass σ ε Expression
  | .leaf t => f s t
  | .binary op l r =>
    (l.visitLeaves f s).andThen r (fun s => r.visitLeaves f s) (Expression.binary op)
  | .unary op e => (e.visitLeaves f s).mapResult (Expression.unary op)
  | .call name args => (Expression.visitArgs f s args).mapResult (Expression.call name)

def Expression.visitArgs (f : σ → PatternTerm → Pass σ ε Expression) (s : σ) :
    List Expression → Pass σ ε (List Expression)
  | [] => Pass.keep [] s
  | e :: es =>
    (e.visitLeaves f s).andThen es (fun s => Expression.visitArgs f s es) List.cons

end

end GraphPattern
