/-
# What a pass makes of patterns and expressions

A *visitor* is a step of a pass with what there is to know about it: which states it
keeps, which terms it takes, and the image of a term, which the states that come later
do not change.  `Visits` says that a pass has visited some terms in this sense.  One lemma
for each way to put passes together carries it from the step to patterns, to expressions
and to lists of them; it is proved by the recursion of the pass.

Where the failure of a step depends on its term alone, the pass fails as the first of the
terms, in the order of their visits, that has a failure (`FailsFirst`).
-/
import GraphPattern.Query.Pass

namespace GraphPattern

/-! ## Images -/

def TriplePattern.map (f : PatternTerm → PatternTerm) (p : TriplePattern) : TriplePattern :=
  ⟨f p.subject, f p.predicate, f p.object⟩

mutual

def Expression.map (f : PatternTerm → PatternTerm) : Expression → Expression
  | .leaf t => .leaf (f t)
  | .binary op l r => .binary op (l.map f) (r.map f)
  | .unary op e => .unary op (e.map f)
  | .call name args => .call name (Expression.mapArgs f args)

def Expression.mapArgs (f : PatternTerm → PatternTerm) : List Expression → List Expression
  | [] => []
  | e :: es => e.map f :: Expression.mapArgs f es

end

theorem TriplePattern.terms_map (f : PatternTerm → PatternTerm) (p : TriplePattern) :
    (p.map f).terms = p.terms.map f := rfl

theorem TriplePattern.term_map (f : PatternTerm → PatternTerm) (p : TriplePattern)
    (pos : Position) : (p.map f).term pos = f (p.term pos) := by
  cases pos <;> rfl

mutual

theorem Expression.leaves_map (f : PatternTerm → PatternTerm) :
    ∀ e : Expression, (e.map f).leaves = e.leaves.map f
  | .leaf _ => rfl
  | .binary _ l r => by
      simp only [Expression.map, Expression.leaves, l.leaves_map f, r.leaves_map f,
        List.map_append]
  | .unary _ e => by simp only [Expression.map, Expression.leaves, e.leaves_map f]
  | .call _ args => by
      simp only [Expression.map, Expression.leaves, Expression.argsLeaves_mapArgs f args]

theorem Expression.argsLeaves_mapArgs (f : PatternTerm → PatternTerm) :
    ∀ es : List Expression, Expression.argsLeaves (Expression.mapArgs f es) =
      (Expression.argsLeaves es).map f
  | [] => rfl
  | e :: es => by
      simp only [Expression.mapArgs, Expression.argsLeaves, e.leaves_map f,
        Expression.argsLeaves_mapArgs f es, List.map_append]

end

mutual

theorem Expression.map_map (f g : PatternTerm → PatternTerm) :
    ∀ e : Expression, (e.map f).map g = e.map fun t => g (f t)
  | .leaf _ => rfl
  | .binary _ l r => by simp only [Expression.map, l.map_map f g, r.map_map f g]
  | .unary _ e => by simp only [Expression.map, e.map_map f g]
  | .call _ args => by simp only [Expression.map, Expression.mapArgs_mapArgs f g args]

theorem Expression.mapArgs_mapArgs (f g : PatternTerm → PatternTerm) :
    ∀ es : List Expression, Expression.mapArgs g (Expression.mapArgs f es) =
      Expression.mapArgs (fun t => g (f t)) es
  | [] => rfl
  | e :: es => by
      simp only [Expression.mapArgs, e.map_map f g, Expression.mapArgs_mapArgs f g es]

end

/-! ## Visitors -/

/-- A step of a pass, and what there is to know about it. -/
structure Visitor (σ ε : Type) where
  step : σ → PatternTerm → Pass σ ε PatternTerm
  /-- The states in which it is known. -/
  good : σ → Prop
  /-- A state comes later than another. -/
  later : σ → σ → Prop
  /-- The terms that it does not fail on. -/
  takes : PatternTerm → Prop
  /-- A term has an image in a state. -/
  covers : σ → PatternTerm → Prop
  image : σ → PatternTerm → PatternTerm
  later_refl : ∀ s, later s s
  later_trans : ∀ {s s' s''}, later s s' → later s' s'' → later s s''
  covers_later : ∀ {s s' t}, covers s t → later s s' → covers s' t
  step_good : ∀ {s} t, good s → good (step s t).state
  step_later : ∀ {s} t, good s → later s (step s t).state
  step_failure : ∀ {s} t, good s → ((step s t).failure = none ↔ takes t)
  step_covers : ∀ {s} t, good s → takes t → covers (step s t).state t
  step_image : ∀ {s} t, good s → takes t → ∀ s', later (step s t).state s' →
    (step s t).result = image s' t

namespace Visitor

variable {σ ε α β γ : Type} (v : Visitor σ ε)

/-- A pass has visited some terms from a state on: it stops only at a term that is not
taken, and otherwise makes an image of what it was given. -/
structure Visits (s : σ) (ts : List PatternTerm) (image : σ → α) (p : Pass σ ε α) : Prop where
  good : v.good p.state
  later : v.later s p.state
  failure : p.failure = none ↔ ∀ t ∈ ts, v.takes t
  covers : p.failure = none → ∀ t ∈ ts, v.covers p.state t
  result : p.failure = none → ∀ s', v.later p.state s' → p.result = image s'

variable {v}

theorem Visits.keep {s : σ} (h : v.good s) (a : α) : v.Visits s [] (fun _ => a) (Pass.keep a s) :=
  ⟨h, v.later_refl s, by simp [Pass.keep], fun _ _ h => (nomatch h), fun _ _ _ => rfl⟩

theorem Visits.step {s : σ} (h : v.good s) (t : PatternTerm) :
    v.Visits s [t] (fun s' => v.image s' t) (v.step s t) where
  good := v.step_good t h
  later := v.step_later t h
  failure := by
    rw [v.step_failure t h]
    simp
  covers ok u hu := by
    rw [List.mem_singleton] at hu
    subst hu
    exact v.step_covers u h ((v.step_failure u h).mp ok)
  result ok s' hs' := v.step_image t h ((v.step_failure t h).mp ok) s' hs'

theorem Visits.mapResult {s : σ} {ts : List PatternTerm} {image : σ → α} {p : Pass σ ε α}
    (h : v.Visits s ts image p) (f : α → β) :
    v.Visits s ts (fun s' => f (image s')) (p.mapResult f) :=
  ⟨h.good, h.later, h.failure, h.covers, fun ok s' hs' => congrArg f (h.result ok s' hs')⟩

theorem Visits.andThen {s : σ} {ts us : List PatternTerm} {f : σ → α} {g : σ → β}
    {p : Pass σ ε α} (first : v.Visits s ts f p) (rest : β) (go : σ → Pass σ ε β)
    (join : α → β → γ) (second : v.Visits p.state us g (go p.state)) :
    v.Visits s (ts ++ us) (fun s' => join (f s') (g s')) (p.andThen rest go join) := by
  unfold Pass.andThen
  cases hp : p.failure with
  | some e =>
      have stuck : ¬ ∀ t ∈ ts, v.takes t := by
        intro all
        have := first.failure.mpr all
        rw [hp] at this
        cases this
      refine ⟨first.good, first.later, ?_, (fun h => nomatch h), (fun h => nomatch h)⟩
      refine ⟨(fun h => nomatch h), fun all => (stuck ?_).elim⟩
      exact fun t ht => all t (List.mem_append_left _ ht)
  | none =>
      refine ⟨second.good, v.later_trans first.later second.later, ?_, ?_, ?_⟩
      · have passed := first.failure.mp hp
        show (go p.state).failure = none ↔ _
        rw [second.failure]
        constructor
        · intro all t ht
          rcases List.mem_append.mp ht with ht | ht
          · exact passed t ht
          · exact all t ht
        · exact fun all t ht => all t (List.mem_append_right _ ht)
      · intro ok t ht
        rcases List.mem_append.mp ht with ht | ht
        · exact v.covers_later (first.covers hp t ht) second.later
        · exact second.covers ok t ht
      · intro ok s' hs'
        show join p.result (go p.state).result = _
        rw [first.result hp s' (v.later_trans second.later hs'), second.result ok s' hs']

theorem Visits.list {visit : σ → α → Pass σ ε α} {terms : α → List PatternTerm}
    (image : σ → α → α)
    (each : ∀ s a, v.good s → v.Visits s (terms a) (fun s' => image s' a) (visit s a))
    (as : List α) {s : σ} (h : v.good s) :
    v.Visits s (as.flatMap terms) (fun s' => as.map (image s')) (Pass.list visit s as) := by
  induction as generalizing s with
  | nil => exact .keep h []
  | cons a as ih =>
      have first := each s a h
      exact first.andThen as (fun s => Pass.list visit s as) List.cons (ih first.good)

theorem visit_visits (p : TriplePattern) {s : σ} (h : v.good s) :
    v.Visits s p.terms (fun s' => p.map (v.image s')) (p.visit v.step s) := by
  have subject := Visits.step h p.subject
  have front := subject.andThen p.predicate (fun s => v.step s p.predicate) Prod.mk
    (Visits.step subject.good p.predicate)
  exact front.andThen p.object (fun s => v.step s p.object)
    (fun front object => TriplePattern.mk front.1 front.2 object)
    (Visits.step front.good p.object)

def onLeaf (v : Visitor σ ε) (s : σ) (t : PatternTerm) : Pass σ ε Expression :=
  (v.step s t).mapResult Expression.leaf

mutual

theorem visitLeaves_visits : ∀ (e : Expression) {s : σ}, v.good s →
    v.Visits s e.leaves (fun s' => e.map (v.image s')) (e.visitLeaves v.onLeaf s)
  | .leaf t, _, h => (Visits.step h t).mapResult Expression.leaf
  | .binary op l r, _, h => by
      have first := visitLeaves_visits l h
      exact first.andThen r (fun s => r.visitLeaves v.onLeaf s) (Expression.binary op)
        (visitLeaves_visits r first.good)
  | .unary op e, _, h => (visitLeaves_visits e h).mapResult (Expression.unary op)
  | .call name args, _, h => (visitArgs_visits args h).mapResult (Expression.call name)

theorem visitArgs_visits : ∀ (es : List Expression) {s : σ}, v.good s →
    v.Visits s (Expression.argsLeaves es) (fun s' => Expression.mapArgs (v.image s') es)
      (Expression.visitArgs v.onLeaf s es)
  | [], _, h => .keep h []
  | e :: es, _, h => by
      have first := visitLeaves_visits e h
      exact first.andThen es (fun s => Expression.visitArgs v.onLeaf s es) List.cons
        (visitArgs_visits es first.good)

end

/-! ## Lists of patterns and of expressions -/

theorem visitPatterns (ps : List TriplePattern) {s : σ} (h : v.good s) :
    v.Visits s (ps.flatMap TriplePattern.terms) (fun s' => ps.map fun p => p.map (v.image s'))
      (Pass.list (fun s p => p.visit v.step s) s ps) :=
  Visits.list (fun s' p => p.map (v.image s')) (fun _ p h => visit_visits p h) ps h

theorem visitExpressions (es : List Expression) {s : σ} (h : v.good s) :
    v.Visits s (es.flatMap Expression.leaves) (fun s' => es.map fun e => e.map (v.image s'))
      (Pass.list (fun s e => e.visitLeaves v.onLeaf s) s es) :=
  Visits.list (fun s' e => e.map (v.image s')) (fun _ e h => visitLeaves_visits e h) es h

end Visitor

/-! ## Failures -/

namespace Pass

variable {σ ε α β γ : Type} {fail : PatternTerm → Option ε} {ts us : List PatternTerm}

/-- A pass fails as the first of some terms that has a failure; it passes if none has. -/
def FailsFirst (fail : PatternTerm → Option ε) (ts : List PatternTerm) (p : Pass σ ε α) : Prop :=
  p.failure = ts.findSome? fail

theorem FailsFirst.mapResult {p : Pass σ ε α} (h : p.FailsFirst fail ts) (f : α → β) :
    (p.mapResult f).FailsFirst fail ts := h

theorem FailsFirst.andThen {p : Pass σ ε α} (first : p.FailsFirst fail ts) (rest : β)
    {go : σ → Pass σ ε β} (second : ∀ s, (go s).FailsFirst fail us) (join : α → β → γ) :
    (p.andThen rest go join).FailsFirst fail (ts ++ us) := by
  have both : (ts ++ us).findSome? fail = p.failure.or (us.findSome? fail) := by
    rw [List.findSome?_append, show p.failure = _ from first]
  unfold FailsFirst Pass.andThen
  rw [both]
  cases p.failure with
  | some e => rfl
  | none => exact second p.state

theorem failsFirst_list {visit : σ → α → Pass σ ε α} {terms : α → List PatternTerm}
    (each : ∀ s a, (visit s a).FailsFirst fail (terms a)) (as : List α) (s : σ) :
    (Pass.list visit s as).FailsFirst fail (as.flatMap terms) := by
  induction as generalizing s with
  | nil => rfl
  | cons a as ih => exact (each s a).andThen as ih List.cons

end Pass

section Failures

variable {σ ε : Type} {fail : PatternTerm → Option ε}

theorem TriplePattern.visit_failsFirst {f : σ → PatternTerm → Pass σ ε PatternTerm}
    (each : ∀ s t, (f s t).FailsFirst fail [t]) (s : σ) (p : TriplePattern) :
    (p.visit f s).FailsFirst fail p.terms := by
  have front := (each s p.subject).andThen p.predicate (fun s => each s p.predicate) Prod.mk
  exact front.andThen p.object (fun s => each s p.object)
    fun front object => TriplePattern.mk front.1 front.2 object

mutual

theorem Expression.visitLeaves_failsFirst {f : σ → PatternTerm → Pass σ ε Expression}
    (each : ∀ s t, (f s t).FailsFirst fail [t]) :
    ∀ (e : Expression) (s : σ), (e.visitLeaves f s).FailsFirst fail e.leaves
  | .leaf t, s => each s t
  | .binary op l r, s =>
      (l.visitLeaves_failsFirst each s).andThen r (fun s => r.visitLeaves_failsFirst each s)
        (Expression.binary op)
  | .unary op e, s => (e.visitLeaves_failsFirst each s).mapResult (Expression.unary op)
  | .call name args, s =>
      (Expression.visitArgs_failsFirst each args s).mapResult (Expression.call name)

theorem Expression.visitArgs_failsFirst {f : σ → PatternTerm → Pass σ ε Expression}
    (each : ∀ s t, (f s t).FailsFirst fail [t]) :
    ∀ (es : List Expression) (s : σ),
      (Expression.visitArgs f s es).FailsFirst fail (Expression.argsLeaves es)
  | [], _ => rfl
  | e :: es, s =>
      (e.visitLeaves_failsFirst each s).andThen es
        (fun s => Expression.visitArgs_failsFirst each es s) List.cons

end

end Failures

end GraphPattern
