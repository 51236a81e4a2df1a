/-
# The world around a join

A join knows of the world around it what it is answered.  `inWorld` is the same join in
another world, one that a map of worlds leads to.  If the map takes what a backend does to
what another one does, and both give the same answers, then the one backend is `Like` the
other, and both run the same join: `step_inWorld` says this of a step and `pulls_inWorld`
of a run.

A backend that keeps a log is like the backend without it (`logging_like`).  What is in the
log was therefore done to the backend that is asked, by the join that would be without a log.
-/
import GraphPattern.Proofs.Join.Course

namespace GraphPattern

variable {ω ω' : Type}

/-! ## Backends that are alike -/

namespace Backend

/-- What a map of worlds takes to a call of one backend it takes to the same call of the other,
for the calls that are not answered. -/
structure Told (f : ω → ω') (b : Backend ω) (b' : Backend ω') : Prop where
  reads : ∀ k w, f (b.reads k w) = b'.reads k (f w)
  closes : ∀ k c w, f (b.closes k c w) = b'.closes k c (f w)

/-- Two backends give the same answers, in worlds that a map leads to. -/
structure Like (f : ω → ω') (b : Backend ω) (b' : Backend ω') : Prop extends Told f b b' where
  stops : ∀ w, (b.stops w).map id f = b'.stops (f w)
  candidates : ∀ p w, (b.candidates p w).map id f = b'.candidates p (f w)
  moves : ∀ k w, (b.advanceFault k w).map id f = b'.advanceFault k (f w)

/-- **Without its log a backend is what it was.** -/
theorem logging_like (b : Backend ω) : b.logging.Like Logged.world b where
  reads _ _ := rfl
  closes _ _ _ := rfl
  stops _ := rfl
  candidates _ _ := rfl
  moves _ _ := rfl

end Backend

namespace JoinState

def inWorld (f : ω → ω') (s : JoinState ω) : JoinState ω' :=
  ⟨s.phase, s.levels, s.done, s.todo, s.table, s.cache, s.opens, s.rounds, f s.world⟩

variable {f : ω → ω'} {b : Backend ω} {b' : Backend ω'} {plan : JoinPlan}

/-! ## What is done without an answer -/

theorem tell_inWorld {call : Nat → ω → ω} {call' : Nat → ω' → ω'}
    (same : ∀ k w, f (call k w) = call' k (f w)) (s : JoinState ω) (number : Option Nat) :
    (s.tell call number).inWorld f = (s.inWorld f).tell call' number := by
  cases number with
  | none => rfl
  | some k =>
      show inWorld f _ = { s.inWorld f with world := call' k (f s.world) }
      rw [← same]
      rfl

theorem closeLevel_inWorld (told : b.Told f b') (s : JoinState ω) (l : Level) :
    (s.closeLevel b l).inWorld f = (s.inWorld f).closeLevel b' l :=
  tell_inWorld (fun k => told.closes k l.cursor.close) (s.release l) l.number

theorem retreat_inWorld (s : JoinState ω) :
    s.retreat.map id (inWorld f) = (s.inWorld f).retreat := by
  by_cases outside : s.done.isEmpty = true
  · simp [retreat, inWorld, outside]
  · simp [retreat, inWorld, outside]

theorem countRound_inWorld (s : JoinState ω) (index : Nat) (behind : List Nat) :
    (s.countRound index behind).map (inWorld f) = (s.inWorld f).countRound index behind := by
  unfold countRound
  split
  · dsimp only [inWorld]
    cases s.rounds <;> rfl
  · rfl

theorem leave_inWorld (told : b.Told f b') (s : JoinState ω) (l : Level)
    (behind todo : List Nat) :
    (s.leave b l behind todo).map id (inWorld f) = (s.inWorld f).leave b' l behind todo := by
  have counted := countRound_inWorld (f := f) (JoinState.closeLevel b
    { s with levels := s.others l.pattern, done := behind, todo := l.pattern :: todo } l)
    l.pattern behind
  rw [closeLevel_inWorld told] at counted
  unfold leave
  dsimp only [inWorld, others] at counted ⊢
  rw [← counted]
  generalize countRound _ _ _ = r
  cases r with
  | none => rfl
  | some t => exact retreat_inWorld t

theorem examine_inWorld (told : b.Told f b') (s : JoinState ω) (l : Level)
    (behind todo : List Nat) :
    (s.examine b l behind todo).map id (inWorld f) = (s.inWorld f).examine b' l behind todo := by
  have read := tell_inWorld (f := f) told.reads s l.number
  unfold examine
  dsimp only
  rw [← read]
  generalize s.tell b.reads l.number = t
  cases l.cursor.current with
  | none => exact leave_inWorld told t l behind todo
  | some triple =>
      show Prod.map id (inWorld f) (if (t.table.unify triple l.binders).1 then _ else _) =
        if (t.table.unify triple l.binders).1 then _ else _
      split <;> rfl

theorem judge_inWorld (plan : JoinPlan) (s : JoinState ω) :
    (s.judge plan).map id (inWorld f) = (s.inWorld f).judge plan := by
  unfold judge
  cases plan.constraint <;> rfl

theorem complete_inWorld (plan : JoinPlan) (s : JoinState ω) :
    (complete plan s).map id (inWorld f) = complete plan (s.inWorld f) := by
  have judged := judge_inWorld (f := f) plan s
  unfold complete
  rw [← judged]
  rcases s.judge plan with ⟨_ | _, t⟩
  · exact retreat_inWorld t
  · rfl

theorem foldl_closeLevel_inWorld (told : b.Told f b') (levels : List Level) (s : JoinState ω) :
    (levels.foldl (closeLevel b) s).inWorld f = levels.foldl (closeLevel b') (s.inWorld f) := by
  induction levels generalizing s with
  | nil => rfl
  | cons l levels ih => rw [List.foldl_cons, List.foldl_cons, ih, closeLevel_inWorld told]

theorem finish_inWorld (told : b.Told f b') (s : JoinState ω) :
    (s.finish b).inWorld f = (s.inWorld f).finish b' := by
  have closed := foldl_closeLevel_inWorld told (inPatternOrder s.levels) { s with levels := [] }
  unfold finish
  dsimp only [inWorld] at closed ⊢
  rw [← closed]

/-! ## Runs with the same answers -/

theorem openCursor_inWorld (like : b.Like f b') (s : JoinState ω) (p : TripleSelector) :
    (openCursor b s p).map id (inWorld f) = openCursor b' (s.inWorld f) p := by
  unfold openCursor
  rw [show (s.inWorld f).world = f s.world from rfl, ← like.candidates]
  rfl

theorem openLevel_inWorld (like : b.Like f b') (s : JoinState ω) (i : Nat)
    (behind todo : List Nat) :
    (openLevel plan b s i behind todo).map id (inWorld f) =
      openLevel plan b' (s.inWorld f) i behind todo := by
  unfold openLevel
  cases plan.patterns[i]? with
  | none => rfl
  | some p =>
      dsimp only
      rw [show (s.inWorld f).table = s.table from rfl]
      cases p.viewUnder s.table with
      | error e => rfl
      | ok v =>
          dsimp only
          cases v.selector? with
          | none => exact examine_inWorld like.toTold s _ behind todo
          | some sel =>
              dsimp only
              rw [← openCursor_inWorld like]
              rcases openCursor b s sel with ⟨e | cursor, t⟩
              · rfl
              · exact examine_inWorld like.toTold t _ behind todo

theorem advanceCursor_inWorld (like : b.Like f b') (s : JoinState ω) (l : Level) :
    (advanceCursor b s l).map id (inWorld f) = advanceCursor b' (s.inWorld f) l := by
  unfold advanceCursor
  cases l.number with
  | none => rfl
  | some k =>
      obtain ⟨fault, world⟩ := Prod.ext_iff.mp (like.moves k s.world)
      dsimp only [Prod.map, id, inWorld] at fault world ⊢
      rw [← fault, ← world]
      cases (b.advanceFault k s.world).1 with
      | none => rfl
      | some e => rfl

theorem advanceLevel_inWorld (like : b.Like f b') (s : JoinState ω) (l : Level)
    (behind : List Nat) :
    (advanceLevel b s l behind).map id (inWorld f) = advanceLevel b' (s.inWorld f) l behind := by
  have moved := advanceCursor_inWorld like (s.release l) l
  unfold advanceLevel
  rw [show (s.inWorld f).release l = (s.release l).inWorld f from rfl, ← moved]
  rcases advanceCursor b (s.release l) l with ⟨e | cursor, t⟩
  · rfl
  · exact examine_inWorld like.toTold t _ behind t.todo

theorem enterLevel_inWorld (like : b.Like f b') (s : JoinState ω) (i : Nat) (todo : List Nat) :
    (enterLevel plan b s i todo).map id (inWorld f) =
      enterLevel plan b' (s.inWorld f) i todo := by
  unfold enterLevel
  rw [show (s.inWorld f).level? i = s.level? i from rfl]
  cases s.level? i with
  | none => exact openLevel_inWorld like s i s.done todo
  | some l => exact examine_inWorld like.toTold s l s.done todo

theorem resumeLevel_inWorld (like : b.Like f b') (s : JoinState ω) (i : Nat)
    (behind : List Nat) :
    (resumeLevel plan b s i behind).map id (inWorld f) =
      resumeLevel plan b' (s.inWorld f) i behind := by
  unfold resumeLevel
  rw [show (s.inWorld f).level? i = s.level? i from rfl]
  cases s.level? i with
  | none => exact openLevel_inWorld like s i behind s.todo
  | some l => exact advanceLevel_inWorld like s l behind

/-- **A step in another world is the same step.** -/
theorem step_inWorld (plan : JoinPlan) (like : b.Like f b') (s : JoinState ω) :
    (step plan b s).map id (inWorld f) = step plan b' (s.inWorld f) := by
  unfold step
  by_cases finished : s.phase = .finished
  · rw [if_pos finished, if_pos (show (s.inWorld f).phase = .finished from finished)]
    rfl
  · rw [if_neg finished, if_neg (show (s.inWorld f).phase ≠ .finished from finished),
      show (s.inWorld f).world = f s.world from rfl, ← like.stops]
    rcases b.stops s.world with ⟨_ | _, w⟩
    · -- with the fields in view both sides take the same branch
      obtain ⟨phase, levels, done, todo, table, cache, opens, rounds, _⟩ := s
      cases phase with
      | finished => exact absurd rfl finished
      | descending =>
          cases todo with
          | nil => exact complete_inWorld plan _
          | cons i todo => exact enterLevel_inWorld like _ i todo
      | retreating =>
          cases done with
          | nil => rfl
          | cons i behind => exact resumeLevel_inWorld like _ i behind
    · rfl

theorem Head.of_inWorld (like : b.Like f b') {s : JoinState ω} {t : JoinState ω'}
    (head : Head plan b' (s.inWorld f) t) : ∃ u, Head plan b s u ∧ u.inWorld f = t := by
  induction head with
  | start => exact ⟨s, .start, rfl⟩
  | @later t u' r _ stepped goes ih =>
      obtain ⟨u, head, rfl⟩ := ih
      rw [← step_inWorld plan like] at stepped
      rcases stepped' : step plan b u with ⟨r', v⟩
      rw [stepped'] at stepped
      cases stepped
      exact ⟨v, head.later stepped' goes, rfl⟩

theorem next_inWorld (like : b.Like f b') (s : JoinState ω) :
    (next plan b s).map id (inWorld f) = next plan b' (s.inWorld f) := by
  induction s using next.induct plan b with
  | case1 s t stepped below ih =>
      have stepped' := step_inWorld plan like s
      rw [stepped] at stepped'
      rw [next_of_running stepped, next_of_running stepped'.symm, ih]
  | case2 s row t stepped =>
      have stepped' := step_inWorld plan like s
      rw [stepped] at stepped'
      rw [next_of_solution stepped, next_of_solution stepped'.symm]
      rfl
  | case3 s t stepped =>
      have stepped' := step_inWorld plan like s
      rw [stepped] at stepped'
      rw [next_of_exhausted stepped, next_of_exhausted stepped'.symm, ← finish_inWorld like.toTold]
      rfl
  | case4 s e t stepped =>
      have stepped' := step_inWorld plan like s
      rw [stepped] at stepped'
      rw [next_of_failed stepped, next_of_failed stepped'.symm, ← finish_inWorld like.toTold]
      rfl

/-- **A run in another world is the same run.** -/
theorem pulls_inWorld (like : b.Like f b') (n : Nat) (s : JoinState ω) :
    (pulls plan b n s).inWorld f = pulls plan b' n (s.inWorld f) := by
  induction n with
  | zero => rfl
  | succ n ih =>
      rw [pulls_succ, pulls_succ, ← ih, ← next_inWorld like]
      rfl

theorem delivery_inWorld (like : b.Like f b') (s : JoinState ω) (n : Nat) :
    delivery plan b s n = delivery plan b' (s.inWorld f) n := by
  unfold delivery
  rw [← pulls_inWorld like, ← next_inWorld like]
  rfl

end JoinState

end GraphPattern
