/-
# A pass goes through terms in a row

What a pass hands to its step are the positions of the patterns, or the leaves of the
expression, from left to right.  `Pass.row` is the pass over such a list alone.  A pass over
patterns leaves the terms that `row` leaves (`visitAll_row`), and a pass over an expression
puts what `row` leaves in place of the leaves (`visitLeaves_row`), also where it stops half
way.  So whatever is to be shown of passes is shown of lists, by induction on them; the
recursion over expressions is done here, once.
-/
import GraphPattern.Proofs.Query.Pass

namespace GraphPattern

/-! ## Lists -/

namespace Pass

variable {σ ε α β γ δ : Type}

theorem andThen_of_failed {p : Pass σ ε α} {e : ε} (h : p.failure = some e) (rest : β)
    (go : σ → Pass σ ε β) (join : α → β → γ) :
    p.andThen rest go join = ⟨join p.result rest, p.state, some e⟩ := by
  rw [andThen, h]

theorem andThen_of_passed {p : Pass σ ε α} (h : p.failure = none) (rest : β)
    (go : σ → Pass σ ε β) (join : α → β → γ) :
    p.andThen rest go join = (go p.state).mapResult (join p.result) := by
  rw [andThen, h]
  rfl

theorem andThen_mapResult {α' β' : Type} (p : Pass σ ε α) (rest : β) (go : σ → Pass σ ε β)
    (pair : α → β → δ) (build : δ → γ) (join : α' → β' → γ) (f : α → α') (g : β → β')
    (same : ∀ b, build (pair p.result b) = join (f p.result) (g b)) :
    (p.andThen rest go pair).mapResult build =
      (p.mapResult f).andThen (g rest) (fun s => (go s).mapResult g) join := by
  cases failed : p.failure with
  | some e =>
      have failed' : (p.mapResult f).failure = some e := failed
      rw [andThen_of_failed failed, andThen_of_failed failed']
      exact congrArg (Pass.mk · p.state (some e)) (same rest)
  | none =>
      have passed : (p.mapResult f).failure = none := failed
      rw [andThen_of_passed failed, andThen_of_passed passed]
      exact congrArg (Pass.mk · (go p.state).state (go p.state).failure) (same (go p.state).result)

/-- Visits the elements of a list in turn; `kept` is what is left of those that are not
visited. -/
def row (f : σ → α → Pass σ ε β) (kept : α → β) : σ → List α → Pass σ ε (List β)
  | s, [] => keep [] s
  | s, a :: as => (f s a).andThen (as.map kept) (fun s => row f kept s as) List.cons

variable {f : σ → α → Pass σ ε β} {kept : α → β}

theorem row_singleton (s : σ) (a : α) : row f kept s [a] = (f s a).mapResult fun b => [b] := by
  rw [row]
  cases failed : (f s a).failure with
  | some e =>
      rw [andThen_of_failed failed, mapResult, failed]
      rfl
  | none =>
      rw [andThen_of_passed failed, mapResult, mapResult, failed]
      rfl

theorem row_append (s : σ) (as bs : List α) :
    row f kept s (as ++ bs) =
      (row f kept s as).andThen (bs.map kept) (fun s => row f kept s bs) List.append := by
  induction as generalizing s with
  | nil => rfl
  | cons a as ih =>
      rw [List.cons_append, row, row, List.map_append]
      cases failed : (f s a).failure with
      | some e =>
          rw [andThen_of_failed failed, andThen_of_failed failed, andThen_of_failed rfl]
          rfl
      | none =>
          rw [andThen_of_passed failed, andThen_of_passed failed, ih]
          have same := andThen_mapResult (row f kept (f s a).state as) (bs.map kept)
            (fun s => row f kept s bs) List.append (List.cons (f s a).result) List.append
            (List.cons (f s a).result) id fun _ => rfl
          exact same

theorem length_row (s : σ) (as : List α) : (row f kept s as).result.length = as.length := by
  induction as generalizing s with
  | nil => rfl
  | cons a as ih =>
      rw [row]
      cases failed : (f s a).failure with
      | some e =>
          rw [andThen_of_failed failed]
          simp
      | none =>
          rw [andThen_of_passed failed]
          exact congrArg Nat.succ (ih _)

theorem row_mapResult (g : β → γ) (s : σ) (as : List α) :
    row (fun s a => (f s a).mapResult g) (fun a => g (kept a)) s as =
      (row f kept s as).mapResult (List.map g) := by
  induction as generalizing s with
  | nil => rfl
  | cons a as ih =>
      rw [row, row, andThen_mapResult _ _ _ _ _ List.cons g (List.map g) fun _ => rfl,
        List.map_map]
      congr 1
      exact funext fun s => ih s

/-- A row whose steps do not fail passes, with the state that the steps come to. -/
theorem row_of_passing {next : σ → α → σ}
    (step : ∀ s a, (f s a).failure = none ∧ (f s a).state = next s a) (s : σ) (as : List α) :
    (row f kept s as).failure = none ∧ (row f kept s as).state = as.foldl next s := by
  induction as generalizing s with
  | nil => exact ⟨rfl, rfl⟩
  | cons a as ih =>
      obtain ⟨passed, moved⟩ := step s a
      rw [row, andThen_of_passed passed, List.foldl_cons, ← moved]
      exact ih _

/-- A row that stops, or passes, does the same again if each of its steps does. -/
theorem row_again {f : α → Pass Unit ε α} (again : ∀ a, f (f a).result = f a) (as : List α) :
    row (fun _ a => f a) id () (row (fun _ a => f a) id () as).result =
      row (fun _ a => f a) id () as := by
  induction as with
  | nil => rfl
  | cons a as ih =>
      rw [row]
      cases failed : (f a).failure with
      | some e =>
          rw [andThen_of_failed failed, List.map_id, row, again, andThen_of_failed failed,
            List.map_id]
      | none =>
          rw [andThen_of_passed failed, mapResult, row, again, andThen_of_passed failed, ih]
          rfl

/-- Going through a list is a row in which nothing is replaced by something of another kind. -/
theorem list_eq_row (visit : σ → α → Pass σ ε α) (s : σ) (as : List α) :
    list visit s as = row visit id s as := by
  induction as generalizing s with
  | nil => rfl
  | cons a as ih =>
      rw [list, row, List.map_id]
      exact congrArg ((visit s a).andThen as · List.cons) (funext ih)

theorem length_list {visit : σ → α → Pass σ ε α} (s : σ) (as : List α) :
    (list visit s as).result.length = as.length := by
  rw [list_eq_row, length_row]

end Pass

/-! ## Patterns -/

section Patterns

variable {σ ε : Type}

open Pass

theorem TriplePattern.visit_row (f : σ → PatternTerm → Pass σ ε PatternTerm) (s : σ)
    (p : TriplePattern) : (p.visit f s).mapResult TriplePattern.terms = row f id s p.terms := by
  let front := (f s p.subject).andThen p.predicate (fun s => f s p.predicate) Prod.mk
  have two : row f id s ([p.subject] ++ [p.predicate]) =
      front.mapResult fun both => [both.1, both.2] := by
    rw [row_append, row_singleton]
    simp only [row_singleton]
    exact (andThen_mapResult (f s p.subject) p.predicate (fun s => f s p.predicate) _ _ _ _
      (fun t => [t]) fun _ => rfl).symm
  have three : p.terms = ([p.subject] ++ [p.predicate]) ++ [p.object] := rfl
  rw [three, row_append, two]
  simp only [row_singleton]
  exact andThen_mapResult front p.object (fun s => f s p.object) _ _ _ _ (fun t => [t])
    fun _ => rfl

theorem visitAll_row (f : σ → PatternTerm → Pass σ ε PatternTerm) (s : σ)
    (ps : List TriplePattern) :
    (list (fun s p => p.visit f s) s ps).mapResult (List.flatMap TriplePattern.terms) =
      row f id s (ps.flatMap TriplePattern.terms) := by
  induction ps generalizing s with
  | nil => rfl
  | cons p ps ih =>
      rw [list, List.flatMap_cons, row_append, ← p.visit_row, List.map_id]
      simp only [← ih]
      exact andThen_mapResult _ _ _ _ _ _ _ _ fun _ => rfl

theorem TriplePattern.visit_of_passing {f : σ → PatternTerm → Pass σ ε PatternTerm}
    {next : σ → PatternTerm → σ}
    (step : ∀ s t, (f s t).failure = none ∧ (f s t).state = next s t) (s : σ) (p : TriplePattern) :
    (p.visit f s).failure = none ∧ (p.visit f s).state = p.terms.foldl next s := by
  have passes : (row f id s p.terms).failure = none ∧
      (row f id s p.terms).state = p.terms.foldl next s := row_of_passing step s p.terms
  rw [← p.visit_row] at passes
  exact passes

theorem flatMap_terms_injective {ps qs : List TriplePattern}
    (same : ps.flatMap TriplePattern.terms = qs.flatMap TriplePattern.terms) : ps = qs := by
  induction ps generalizing qs with
  | nil =>
      cases qs with
      | nil => rfl
      | cons q qs => cases same
  | cons p ps ih =>
      cases qs with
      | nil => cases same
      | cons q qs =>
          obtain ⟨first, rest⟩ := List.append_inj same rfl
          obtain ⟨s, p, o⟩ := p
          obtain ⟨s', p', o'⟩ := q
          cases first
          rw [ih rest]

theorem TriplePattern.map_congr {f g : PatternTerm → PatternTerm} {p : TriplePattern}
    (same : ∀ t ∈ p.terms, f t = g t) : p.map f = p.map g := by
  have subject : f p.subject = g p.subject := same _ (by simp [terms])
  have predicate : f p.predicate = g p.predicate := same _ (by simp [terms])
  have object : f p.object = g p.object := same _ (by simp [terms])
  rw [map, map, subject, predicate, object]

end Patterns

/-! ## Expressions -/

namespace Expression

variable {σ ε : Type}

open Pass

mutual

/-- The expression with others in place of its leaves, from left to right. -/
def graft : Expression → List Expression → Expression
  | .leaf t, us => us.headD (.leaf t)
  | .binary op l r, us =>
    .binary op (l.graft (us.take l.leaves.length)) (r.graft (us.drop l.leaves.length))
  | .unary op e, us => .unary op (e.graft us)
  | .call name args, us => .call name (graftArgs args us)

/-- Arguments with others in place of their leaves. -/
def graftArgs : List Expression → List Expression → List Expression
  | [], _ => []
  | e :: es, us =>
    e.graft (us.take e.leaves.length) :: graftArgs es (us.drop e.leaves.length)

end

theorem graft_binary {op : BinaryOp} {l r : Expression} {us vs : List Expression}
    (size : us.length = l.leaves.length) :
    (binary op l r).graft (us ++ vs) = binary op (l.graft us) (r.graft vs) := by
  rw [graft, ← size, List.take_left, List.drop_left]

theorem graftArgs_cons {e : Expression} {es us vs : List Expression}
    (size : us.length = e.leaves.length) :
    graftArgs (e :: es) (us ++ vs) = e.graft us :: graftArgs es vs := by
  rw [graftArgs, ← size, List.take_left, List.drop_left]

mutual

theorem graft_leaves : ∀ e : Expression, e.graft (e.leaves.map leaf) = e
  | .leaf _ => rfl
  | .binary op l r => by
      rw [leaves, List.map_append, graft_binary (List.length_map leaf), graft_leaves l,
        graft_leaves r]
  | .unary op e => by rw [leaves, graft, graft_leaves e]
  | .call name args => by rw [leaves, graft, graftArgs_leaves args]

theorem graftArgs_leaves : ∀ es : List Expression,
    graftArgs es ((argsLeaves es).map leaf) = es
  | [] => rfl
  | e :: es => by
      rw [argsLeaves, List.map_append, graftArgs_cons (List.length_map leaf), graft_leaves e,
        graftArgs_leaves es]

end

mutual

theorem leaves_graft : ∀ (e : Expression) {us : List Expression},
    us.length = e.leaves.length → (e.graft us).leaves = us.flatMap leaves
  | .leaf _, us, size => by
      obtain ⟨u, rfl⟩ := List.length_eq_one_iff.mp size
      simp [graft]
  | .binary op l r, us, size => by
      rw [leaves, List.length_append] at size
      rw [graft, leaves, leaves_graft l (by simp; omega), leaves_graft r (by simp; omega),
        ← List.flatMap_append, List.take_append_drop]
  | .unary op e, us, size => by rw [graft, leaves, leaves_graft e size]
  | .call name args, us, size => by rw [graft, leaves, argsLeaves_graft args size]

theorem argsLeaves_graft : ∀ (es : List Expression) {us : List Expression},
    us.length = (argsLeaves es).length → argsLeaves (graftArgs es us) = us.flatMap leaves
  | [], us, size => by
      obtain rfl := List.length_eq_zero_iff.mp size
      rfl
  | e :: es, us, size => by
      rw [argsLeaves, List.length_append] at size
      rw [graftArgs, argsLeaves, leaves_graft e (by simp; omega),
        argsLeaves_graft es (by simp; omega), ← List.flatMap_append, List.take_append_drop]

end

mutual

theorem map_graft (f : PatternTerm → PatternTerm) : ∀ (e : Expression) {us : List Expression},
    us.length = e.leaves.length → (e.graft us).map f = e.graft (us.map fun u => u.map f)
  | .leaf _, us, size => by
      obtain ⟨u, rfl⟩ := List.length_eq_one_iff.mp size
      rfl
  | .binary op l r, us, size => by
      rw [leaves, List.length_append] at size
      rw [graft, graft, map, map_graft f l (by simp; omega), map_graft f r (by simp; omega),
        List.map_take, List.map_drop]
  | .unary op e, us, size => by rw [graft, graft, map, map_graft f e size]
  | .call name args, us, size => by rw [graft, graft, map, mapArgs_graft f args size]

theorem mapArgs_graft (f : PatternTerm → PatternTerm) :
    ∀ (es : List Expression) {us : List Expression}, us.length = (argsLeaves es).length →
      mapArgs f (graftArgs es us) = graftArgs es (us.map fun u => u.map f)
  | [], _, _ => rfl
  | e :: es, us, size => by
      rw [argsLeaves, List.length_append] at size
      rw [graftArgs, graftArgs, mapArgs, map_graft f e (by simp; omega),
        mapArgs_graft f es (by simp; omega), List.map_take, List.map_drop]

end

theorem map_eq_graft (f : PatternTerm → PatternTerm) (e : Expression) :
    e.map f = e.graft (e.leaves.map fun t => leaf (f t)) := by
  calc e.map f = (e.graft (e.leaves.map leaf)).map f := by rw [graft_leaves]
    _ = e.graft ((e.leaves.map leaf).map fun u => u.map f) := map_graft f e (List.length_map leaf)
    _ = e.graft (e.leaves.map fun t => leaf (f t)) := by rw [List.map_map]; rfl

theorem map_congr {f g : PatternTerm → PatternTerm} {e : Expression}
    (same : ∀ t ∈ e.leaves, f t = g t) : e.map f = e.map g := by
  rw [map_eq_graft, map_eq_graft]
  refine congrArg e.graft (List.map_congr_left ?_)
  intro t mem
  rw [same t mem]

section Row

variable (f : σ → PatternTerm → Pass σ ε Expression)

mutual

/-- **A pass over an expression puts what the row of its leaves leaves in their place.** -/
theorem visitLeaves_row : ∀ (e : Expression) (s : σ),
    e.visitLeaves f s = (row f leaf s e.leaves).mapResult e.graft
  | .leaf t, s => by
      rw [leaves, row_singleton]
      rfl
  | .binary op l r, s => by
      have part := andThen_mapResult (row f leaf s l.leaves) (r.leaves.map leaf)
        (fun s => row f leaf s r.leaves) List.append (binary op l r).graft (binary op) l.graft
        r.graft fun _ => graft_binary (length_row s l.leaves)
      rw [leaves, row_append, part, graft_leaves r, ← visitLeaves_row l s]
      simp only [← visitLeaves_row r]
      rfl
  | .unary op e, s => by
      rw [visitLeaves, leaves, visitLeaves_row e s]
      rfl
  | .call name args, s => by
      rw [visitLeaves, leaves, visitArgs_row args s]
      rfl

theorem visitArgs_row : ∀ (es : List Expression) (s : σ),
    visitArgs f s es = (row f leaf s (argsLeaves es)).mapResult (graftArgs es)
  | [], _ => rfl
  | e :: es, s => by
      have part := andThen_mapResult (row f leaf s e.leaves) ((argsLeaves es).map leaf)
        (fun s => row f leaf s (argsLeaves es)) List.append (graftArgs (e :: es)) List.cons e.graft
        (graftArgs es) fun _ => graftArgs_cons (length_row s e.leaves)
      rw [argsLeaves, row_append, part, graftArgs_leaves es, ← visitLeaves_row e s]
      simp only [← visitArgs_row es]
      rfl

end

end Row

theorem visitLeaves_of_passing {f : σ → PatternTerm → Pass σ ε Expression}
    {next : σ → PatternTerm → σ}
    (step : ∀ s t, (f s t).failure = none ∧ (f s t).state = next s t) (s : σ) (e : Expression) :
    (e.visitLeaves f s).failure = none ∧ (e.visitLeaves f s).state = e.leaves.foldl next s := by
  rw [visitLeaves_row]
  exact row_of_passing step s e.leaves

end Expression

end GraphPattern
