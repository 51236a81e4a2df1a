/-
Every step brings a join nearer to its end.

A place of the plan with `n` candidates left at its level counts `2 n + 1` while the
search goes on below it, and `2 n` when the search has come back to it.  A place whose
level is closed counts more than that, and a place that is not reached yet counts most.
A step lowers the entry of one place and raises only those behind it, unless it closes
a level that a place before it still needs; then it uses up a round.
-/
import GraphPattern.Join.Machine
import GraphPattern.Join.Rank

namespace GraphPattern

/-- How many candidates a level has left, the current one included. -/
def Level.left (l : Level) : Nat := l.cursor.rest.length

namespace JoinState

variable {ω : Type}

/-- The entry of a place with the search going on below it. -/
def busy (levels : List Level) (index : Nat) : RankEntry :=
  match levels.find? (·.pattern = index) with
  | some l => (0, 2 * l.left + 1)
  | none => (1, 1)

/-- The entry of a place to which the search has come back. -/
def back (levels : List Level) (index : Nat) : RankEntry :=
  match levels.find? (·.pattern = index) with
  | some l => (0, 2 * l.left)
  | none => (1, 0)

/-- The entry of a place that is not reached. -/
def untouched : RankEntry := (1, 2)

/-- The entries of the places behind the search, the first of the plan first. -/
def doneEntries (s : JoinState ω) : List RankEntry :=
  match s.phase, s.done with
  | .retreating, index :: behind => behind.reverse.map (busy s.levels) ++ [back s.levels index]
  | _, done => done.reverse.map (busy s.levels)

/-- The first entry: the rounds, and whether anything is left to do at all. -/
def whole (s : JoinState ω) : RankEntry := (s.rounds, if s.phase = .finished then 0 else 1)

/-- How much a join has left to do. -/
def rank (s : JoinState ω) : Rank :=
  ⟨s.whole :: (s.doneEntries ++ List.replicate s.todo.length untouched)⟩

/-- A state has less left to do than another. -/
def Below (s' s : JoinState ω) : Prop := RankBelow s'.rank.entries s.rank.entries

theorem back_below_busy (levels : List Level) (index : Nat) :
    EntryBelow (back levels index) (busy levels index) := by
  unfold back busy
  cases levels.find? (·.pattern = index) with
  | some l => exact .of_second _ (by simp)
  | none => exact .of_second _ Nat.one_pos

theorem pattern_of_level? {s : JoinState ω} {index : Nat} {l : Level}
    (h : s.level? index = some l) : l.pattern = index := by
  simpa using List.find?_some h

theorem find?_others (s : JoinState ω) {closed index : Nat} (h : index ≠ closed) :
    (s.others closed).find? (fun l => l.pattern = index) =
      s.levels.find? (fun l => l.pattern = index) := by
  unfold others
  rw [List.find?_filter]
  congr 1
  funext l
  by_cases hl : l.pattern = index <;> simp [hl, h]

theorem busy_others (s : JoinState ω) {closed index : Nat} (h : index ≠ closed) :
    busy (s.others closed) index = busy s.levels index := by
  simp only [busy, s.find?_others h]

theorem busy_kept (s : JoinState ω) (l : Level) (index : Nat) :
    busy (l :: s.others l.pattern) index =
      if index = l.pattern then (0, 2 * l.left + 1) else busy s.levels index := by
  by_cases h : index = l.pattern
  · simp [busy, h]
  · have h' : l.pattern ≠ index := fun e => h e.symm
    simp only [busy, List.find?_cons, h', decide_false, s.find?_others h, h, if_false]

theorem rank_length (s : JoinState ω) :
    s.rank.entries.length = s.done.length + s.todo.length + 1 := by
  have : s.doneEntries.length = s.done.length := by
    unfold doneEntries
    split <;> simp_all
  simp [rank, this]

/-- What a look at a candidate of `l` comes to, if the join goes on: the level is open
and the search is behind it, or it is closed and the search has come back to the place
before, or a round is used up. -/
inductive Examined (s : JoinState ω) (l : Level) (behind todo : List Nat) (t : JoinState ω) :
    Prop where
  | kept (candidate : 0 < l.left) (levels : t.levels = l :: s.others l.pattern)
    (done : t.done = l.pattern :: behind) (rest : t.todo = todo) (rounds : t.rounds = s.rounds)
    (phase : t.phase ≠ .finished)
  | closed (o : Nat) (behind' : List Nat) (out : behind = o :: behind')
    (new : l.pattern ∉ behind) (levels : t.levels = s.others l.pattern) (done : t.done = behind)
    (rest : t.todo = l.pattern :: todo) (rounds : t.rounds = s.rounds)
    (phase : t.phase = .retreating)
  | again (rounds : t.rounds < s.rounds) (done : t.done = behind)
    (rest : t.todo = l.pattern :: todo)

theorem retreat_running {s t : JoinState ω} (h : s.retreat = (.running, t)) :
    s.done ≠ [] ∧ t = { s with phase := .retreating } := by
  unfold retreat at h
  split at h
  · cases h
  · next hne => cases h; exact ⟨by simpa using hne, rfl⟩

theorem countRound_some {s t : JoinState ω} {index : Nat} {behind : List Nat}
    (h : s.countRound index behind = some t) :
    (index ∉ behind ∧ t = s) ∨ ∃ n, s.rounds = n + 1 ∧ t = { s with rounds := n } := by
  unfold countRound at h
  split at h
  · split at h
    · cases h
    · next n hn => cases h; exact .inr ⟨n, hn, rfl⟩
  · next hc => cases h; exact .inl ⟨by simpa using hc, rfl⟩

theorem leave_running {b : Backend ω} {s t : JoinState ω} {l : Level} {behind todo : List Nat}
    (h : s.leave b l behind todo = (.running, t)) : Examined s l behind todo t := by
  unfold leave at h
  dsimp only at h
  split at h
  · cases h
  · next u hu =>
    obtain ⟨hne, rfl⟩ := retreat_running h
    rcases countRound_some hu with ⟨hc, rfl⟩ | ⟨n, hn, rfl⟩
    · cases hb : behind with
      | nil => simp [hb] at hne
      | cons o behind' =>
        exact .closed o behind' rfl (hb ▸ hc) (by simp) (by simp) (by simp) (by simp) rfl
    · rw [closeLevel_rounds] at hn
      exact .again (by simp [show s.rounds = n + 1 from hn]) (by simp) (by simp)

theorem examine_running {b : Backend ω} {s t : JoinState ω} {l : Level} {behind todo : List Nat}
    (h : s.examine b l behind todo = (.running, t)) : Examined s l behind todo t := by
  unfold examine at h
  dsimp only at h
  split at h
  · next c hc =>
    have left : 0 < l.left := by
      cases hr : l.cursor.rest with
      | nil => simp [Cursor.current, hr] at hc
      | cons _ _ => simp [Level.left, hr]
    split at h <;> cases h <;>
      exact .kept left (by simp [release, others]) rfl rfl (by simp [release]) (by simp)
  · cases leave_running h with
    | kept candidate levels done rest rounds phase =>
      exact .kept candidate (by simpa [others] using levels) done rest (by simpa using rounds) phase
    | closed o behind' out new levels done rest rounds phase =>
      exact .closed o behind' out new (by simpa [others] using levels) done rest
        (by simpa using rounds) phase
    | again rounds done rest => exact .again (by simpa using rounds) done rest

/-- The entries after a look at a candidate of a level are below those of any state that
had the same levels and more left to do at its place. -/
theorem Examined.below {s t : JoinState ω} {l : Level} {behind todo : List Nat}
    (h : Examined s l behind todo t) (entry : RankEntry)
    (all : 0 < l.left → (0, 2 * l.left + 1) = busy s.levels l.pattern ∨
      EntryBelow (0, 2 * l.left + 1) (busy s.levels l.pattern))
    (more : 0 < l.left → EntryBelow (0, 2 * l.left + 1) entry)
    (more' : 0 < l.left → EntryBelow (0, 2 * l.left) entry) :
    RankBelow t.rank.entries
      ((s.rounds, 1) :: (behind.reverse.map (busy s.levels) ++
        entry :: List.replicate todo.length untouched)) := by
  cases h with
  | kept candidate levels done rest rounds phase =>
    have whole : t.whole = (s.rounds, 1) := by simp [JoinState.whole, phase, rounds]
    have le : ∀ i ∈ behind.reverse, busy t.levels i = busy s.levels i ∨
        EntryBelow (busy t.levels i) (busy s.levels i) := by
      intro i _
      rw [levels, busy_kept]
      split
      · next hi => rw [hi]; exact all candidate
      · exact .inl rfl
    simp only [rank, whole, rest]
    refine .tail _ ?_
    cases hp : t.phase with
    | finished => exact absurd hp phase
    | descending =>
      have : t.doneEntries = behind.reverse.map (busy t.levels) ++ [(0, 2 * l.left + 1)] := by
        simp [doneEntries, hp, done, levels, busy]
      rw [this, List.append_assoc, List.singleton_append]
      exact RankBelow.append_of_le le (.head (more candidate) rfl)
    | retreating =>
      have : t.doneEntries = behind.reverse.map (busy t.levels) ++ [(0, 2 * l.left)] := by
        simp [doneEntries, hp, done, levels, back]
      rw [this, List.append_assoc, List.singleton_append]
      exact RankBelow.append_of_le le (.head (more' candidate) rfl)
  | closed o behind' out new levels done rest rounds phase =>
    have whole : t.whole = (s.rounds, 1) := by simp [JoinState.whole, phase, rounds]
    subst out
    have entries : t.doneEntries = behind'.reverse.map (busy t.levels) ++ [back t.levels o] := by
      simp [doneEntries, phase, done]
    have le : ∀ i ∈ behind'.reverse, busy t.levels i = busy s.levels i ∨
        EntryBelow (busy t.levels i) (busy s.levels i) := by
      intro i hi
      rw [levels]
      refine .inl (s.busy_others fun h => new ?_)
      rw [← h]
      exact List.mem_cons_of_mem _ (List.mem_reverse.1 hi)
    have same : busy t.levels o = busy s.levels o := by
      rw [levels]
      exact s.busy_others fun h => new (h ▸ List.mem_cons_self)
    simp only [rank, whole, rest, entries, List.reverse_cons, List.map_append, List.map_cons,
      List.map_nil, List.append_assoc, List.singleton_append]
    exact .tail _ (RankBelow.append_of_le le
      (.head (same ▸ back_below_busy t.levels o) (by simp)))
  | again rounds done rest =>
    refine .head (.of_first _ _ rounds) ?_
    have := t.rank_length
    rw [done, rest] at this
    simp only [rank, List.length_cons] at this
    simp at this ⊢
    omega

theorem examine_ne_solution (b : Backend ω) (s t : JoinState ω) (l : Level)
    (behind todo : List Nat) (r : Solution) : s.examine b l behind todo ≠ (.solution r, t) := by
  unfold examine leave retreat
  dsimp only
  split
  · split <;> simp
  · split
    · simp
    · split <;> simp

/-- The levels, the places of the plan, the rounds and the phase are as they were. -/
def SameShape (s t : JoinState ω) : Prop :=
  t.levels = s.levels ∧ t.done = s.done ∧ t.todo = s.todo ∧ t.rounds = s.rounds ∧
    t.phase = s.phase

theorem openCursor_shape {b : Backend ω} {s t : JoinState ω} {p : TripleSelector}
    {r : Except MatchError Cursor} (h : openCursor b s p = (r, t)) : SameShape s t := by
  cases h
  exact ⟨rfl, rfl, rfl, rfl, rfl⟩

theorem advanceCursor_shape {b : Backend ω} {s t : JoinState ω} {l : Level}
    {r : Except MatchError Cursor} (h : advanceCursor b s l = (r, t)) : SameShape s t := by
  unfold advanceCursor at h
  split at h
  · cases h; exact ⟨rfl, rfl, rfl, rfl, rfl⟩
  · dsimp only at h
    split at h <;> cases h <;> exact ⟨rfl, rfl, rfl, rfl, rfl⟩

theorem advanceCursor_cursor {b : Backend ω} {s t : JoinState ω} {l : Level} {c : Cursor}
    (h : advanceCursor b s l = (.ok c, t)) : c.rest = l.cursor.rest.drop 1 := by
  have moved : l.cursor.advance = .ok c := by
    unfold advanceCursor at h
    split at h
    · exact (Prod.mk.inj h).1
    · dsimp only at h
      split at h
      · cases h
      · exact (Prod.mk.inj h).1
  unfold Cursor.advance at moved
  split at moved
  · cases moved
  · cases moved; rfl

/-- What opening a level comes to: it ends the run, or it is a look at the first
candidate of a new level. -/
theorem openLevel_cases (plan : JoinPlan) (b : Backend ω) (s : JoinState ω) (index : Nat)
    (behind todo : List Nat) :
    (∃ e t, openLevel plan b s index behind todo = (.failed e, t)) ∨
      ∃ (l : Level) (t : JoinState ω), l.pattern = index ∧ SameShape s t ∧
        openLevel plan b s index behind todo = t.examine b l behind todo := by
  unfold openLevel
  split
  · exact .inl ⟨_, _, rfl⟩
  · split
    · exact .inl ⟨_, _, rfl⟩
    · split
      · exact .inr ⟨_, s, rfl, ⟨rfl, rfl, rfl, rfl, rfl⟩, rfl⟩
      · split
        · exact .inl ⟨_, _, rfl⟩
        · next h => exact .inr ⟨_, _, rfl, openCursor_shape h, rfl⟩

/-- What moving a level comes to: it ends the run, or it is a look at the next
candidate, of which there is one less. -/
theorem advanceLevel_cases (b : Backend ω) (s : JoinState ω) (l : Level) (behind : List Nat) :
    (∃ e t, advanceLevel b s l behind = (.failed e, t)) ∨
      ∃ (l' : Level) (t : JoinState ω), l'.pattern = l.pattern ∧ l'.left = l.left - 1 ∧
        SameShape s t ∧ advanceLevel b s l behind = t.examine b l' behind s.todo := by
  unfold advanceLevel
  split
  · exact .inl ⟨_, _, rfl⟩
  · next c t h =>
    have shape := advanceCursor_shape h
    refine .inr ⟨{ l with cursor := c }, t, rfl, ?_, shape, ?_⟩
    · simp [Level.left, advanceCursor_cursor h]
    · rw [shape.2.2.1]; rfl

theorem openLevel_below {plan : JoinPlan} {b : Backend ω} {s t : JoinState ω} {index : Nat}
    {behind todo : List Nat} (h : openLevel plan b s index behind todo = (.running, t))
    (closed : s.level? index = none) (entry : RankEntry) (high : 0 < entry.1) :
    RankBelow t.rank.entries
      ((s.rounds, 1) :: (behind.reverse.map (busy s.levels) ++
        entry :: List.replicate todo.length untouched)) := by
  rcases openLevel_cases plan b s index behind todo with
    ⟨e, u, hu⟩ | ⟨l, u, hl, ⟨levels, -, -, rounds, -⟩, eq⟩
  · rw [hu] at h; cases h
  · rw [eq] at h
    have at' : busy u.levels l.pattern = (1, 1) := by
      rw [levels, hl]
      simp only [busy, show s.levels.find? (fun l => l.pattern = index) = none from closed]
    have := (examine_running h).below entry
      (fun _ => .inr (at' ▸ .of_first _ _ Nat.one_pos))
      (fun _ => .of_first _ _ high) (fun _ => .of_first _ _ high)
    rwa [levels, rounds] at this

theorem enterLevel_below {plan : JoinPlan} {b : Backend ω} {s t : JoinState ω} {index : Nat}
    {todo : List Nat} (h : enterLevel plan b s index todo = (.running, t)) :
    RankBelow t.rank.entries
      ((s.rounds, 1) :: (s.done.reverse.map (busy s.levels) ++
        untouched :: List.replicate todo.length untouched)) := by
  unfold enterLevel at h
  split at h
  · next l hl =>
    refine (examine_running h).below untouched (fun _ => .inl ?_)
      (fun _ => .of_first _ _ Nat.one_pos) (fun _ => .of_first _ _ Nat.one_pos)
    rw [pattern_of_level? hl]
    unfold busy
    rw [show s.levels.find? _ = some l from hl]
  · next hl => exact openLevel_below h hl untouched Nat.one_pos

theorem resumeLevel_below {plan : JoinPlan} {b : Backend ω} {s t : JoinState ω} {index : Nat}
    {behind : List Nat} (h : resumeLevel plan b s index behind = (.running, t)) :
    RankBelow t.rank.entries
      ((s.rounds, 1) :: (behind.reverse.map (busy s.levels) ++
        back s.levels index :: List.replicate s.todo.length untouched)) := by
  unfold resumeLevel at h
  split at h
  · next l hl =>
    have hi := pattern_of_level? hl
    rcases advanceLevel_cases b s l behind with
      ⟨e, u, hu⟩ | ⟨l', u, same, left, ⟨levels, -, -, rounds, -⟩, eq⟩
    · rw [hu] at h; cases h
    · rw [eq] at h
      have found : s.levels.find? (fun l => l.pattern = index) = some l := hl
      have at' : busy u.levels l'.pattern = (0, 2 * l.left + 1) := by
        rw [levels, same, hi]
        simp only [busy, found]
      have home : back s.levels index = (0, 2 * l.left) := by simp only [back, found]
      have := (examine_running h).below (back s.levels index)
        (fun hn => .inr (by rw [at']; exact .of_second _ (by omega)))
        (fun hn => by rw [home]; exact .of_second _ (by omega))
        (fun hn => by rw [home]; exact .of_second _ (by omega))
      rwa [levels, rounds] at this
  · next hl =>
    have home : back s.levels index = (1, 0) := by
      simp only [back, show s.levels.find? (fun l => l.pattern = index) = none from hl]
    exact openLevel_below h hl _ (by rw [home]; exact Nat.one_pos)

theorem openLevel_ne_solution (plan : JoinPlan) (b : Backend ω) (s t : JoinState ω) (index : Nat)
    (behind todo : List Nat) (r : Solution) :
    openLevel plan b s index behind todo ≠ (.solution r, t) := by
  rcases openLevel_cases plan b s index behind todo with ⟨e, u, hu⟩ | ⟨l, u, -, -, eq⟩
  · simp [hu]
  · rw [eq]; exact examine_ne_solution _ _ _ _ _ _ _

theorem enterLevel_ne_solution (plan : JoinPlan) (b : Backend ω) (s t : JoinState ω)
    (index : Nat) (todo : List Nat) (r : Solution) :
    enterLevel plan b s index todo ≠ (.solution r, t) := by
  unfold enterLevel
  split
  · exact examine_ne_solution _ _ _ _ _ _ _
  · exact openLevel_ne_solution _ _ _ _ _ _ _ _

theorem resumeLevel_ne_solution (plan : JoinPlan) (b : Backend ω) (s t : JoinState ω)
    (index : Nat) (behind : List Nat) (r : Solution) :
    resumeLevel plan b s index behind ≠ (.solution r, t) := by
  unfold resumeLevel
  split
  · next l _ =>
    rcases advanceLevel_cases b s l behind with ⟨e, u, hu⟩ | ⟨l', u, -, -, -, eq⟩
    · simp [hu]
    · rw [eq]; exact examine_ne_solution _ _ _ _ _ _ _
  · exact openLevel_ne_solution _ _ _ _ _ _ _ _

theorem judge_shape (plan : JoinPlan) (s : JoinState ω) : SameShape s (s.judge plan).2 := by
  unfold judge
  split <;> exact ⟨rfl, rfl, rfl, rfl, rfl⟩

theorem back_below {s t : JoinState ω} (shape : SameShape s t) (phase : s.phase = .descending)
    (open' : t.done ≠ []) : Below { t with phase := .retreating } s := by
  obtain ⟨hl, hd, ht, hr, -⟩ := shape
  cases done : s.done with
  | nil => rw [hd] at open'; exact absurd done open'
  | cons index behind =>
    simp only [Below, rank, whole, doneEntries, hl, hd, done, ht, hr, phase, List.reverse_cons,
      List.map_append, List.map_cons, List.map_nil, List.append_assoc, List.singleton_append]
    exact .tail _ (RankBelow.append_of_le (fun _ _ => .inl rfl)
      (.head (back_below_busy s.levels index) rfl))

theorem complete_below {plan : JoinPlan} {s t : JoinState ω} {r : StepResult}
    (h : complete plan s = (r, t)) (phase : s.phase = .descending)
    (goes : r = .running ∨ ∃ x, r = .solution x) : Below t s := by
  have shape := judge_shape plan s
  unfold complete at h
  generalize s.judge plan = judged at h shape
  obtain ⟨accepted, u⟩ := judged
  dsimp only at h shape
  cases accepted with
  | true =>
    simp only [if_true, emit] at h
    cases h
    cases hd : u.done with
    | nil =>
      obtain ⟨-, sd, st, sr, -⟩ := shape
      rw [hd] at sd
      refine .head ?_ ?_
      · simp only [whole, phase, sr]
        exact .of_second _ Nat.one_pos
      · simp [doneEntries, ← sd, st]
    | cons index behind => simpa [hd] using back_below shape phase (by simp [hd])
  | false =>
    rcases goes with rfl | ⟨x, rfl⟩
    · obtain ⟨hne, rfl⟩ := retreat_running h
      exact back_below shape phase hne
    · simp only [Bool.false_eq_true, if_false, retreat] at h
      split at h <;> cases h

/-- A step after which the join goes on, with a solution or without one, leaves
less to do. -/
theorem step_below {plan : JoinPlan} {b : Backend ω} {s t : JoinState ω} {r : StepResult}
    (h : step plan b s = (r, t)) (goes : r = .running ∨ ∃ x, r = .solution x) :
    Below t s := by
  unfold step at h
  split at h
  · cases h; rcases goes with h | ⟨_, h⟩ <;> cases h
  · dsimp only at h
    split at h
    · cases h; rcases goes with h | ⟨_, h⟩ <;> cases h
    · split at h
      · next index behind _ phase done =>
        rcases goes with rfl | ⟨x, rfl⟩
        · have below := resumeLevel_below h
          simpa [Below, rank, whole, doneEntries, phase, done] using below
        · exact absurd h (resumeLevel_ne_solution _ _ _ _ _ _ _)
      · next index todo phase rest =>
        rcases goes with rfl | ⟨x, rfl⟩
        · have below := enterLevel_below h
          simpa [Below, rank, whole, doneEntries, phase, rest, List.replicate_succ] using below
        · exact absurd h (enterLevel_ne_solution _ _ _ _ _ _ _)
      · next phase _ =>
        exact complete_below (s := { s with world := (b.stops s.world).2 }) h phase goes
      · cases h; rcases goes with h | ⟨_, h⟩ <;> cases h

end JoinState

end GraphPattern
