/-
# What becomes of the cursors of a join

What a source is asked to do is a log, the latest first.  `JoinEvent.fate` reads off what has
become of one cursor: it was asked for, was refused or is open, is read and moved while it
is open, and is closed; anything else is a misuse.  `Tracks` says that the open cursors are
some given ones and that none was misused.  A log without open cursors is then `Balanced`,
which says the same without fates: what was opened is closed once, what was refused is not,
and nothing is read or moved after it was closed.

`Backend.Keeps` is the same from the side of the source: what holds of it with some cursors
open is kept by the calls that it may expect.  The log is an instance (`logging_keeps`).
-/
import GraphPattern.Join.Backend

namespace GraphPattern

namespace JoinEvent

def cursor : JoinEvent → Nat
  | opened k _ | refused k _ | read k | advanced k | closed k => k

/-- What may have become of a cursor. -/
inductive Fate where
  | unasked
  | refused
  | reading
  | closed
  | misused
deriving DecidableEq

def Fate.next : Fate → JoinEvent → Fate
  | .unasked, .opened _ _ => .reading
  | .unasked, .refused _ _ => .refused
  | .reading, .read _ => .reading
  | .reading, .advanced _ => .reading
  | .reading, .closed _ => .closed
  | _, _ => .misused

/-- What has become of a cursor, by events of which the latest comes first. -/
def fate (k : Nat) : List JoinEvent → Fate
  | [] => .unasked
  | e :: events => if e.cursor = k then (fate k events).next e else fate k events

theorem fate_cons_self (e : JoinEvent) {k : Nat} (h : e.cursor = k) (events : List JoinEvent) :
    fate k (e :: events) = (fate k events).next e := if_pos h

theorem fate_cons_other (e : JoinEvent) {k : Nat} (h : e.cursor ≠ k) (events : List JoinEvent) :
    fate k (e :: events) = fate k events := if_neg h

theorem Fate.next_ne_misused {f : Fate} {e : JoinEvent} (h : f.next e ≠ .misused) :
    f ≠ .misused := by
  rintro rfl
  exact h rfl

/-- A cursor is open: it was opened and is not closed yet. -/
def IsOpen (events : List JoinEvent) (k : Nat) : Prop :=
  (∃ p, opened k p ∈ events) ∧ closed k ∉ events

/-- A request for the cursor, whatever its answer. -/
def asks (k : Nat) : JoinEvent → Bool
  | opened j _ | refused j _ => j = k
  | _ => false

/-- Every cursor is asked for once at most; every one that was opened is closed once, none
that was refused is closed, and none is read or moved after it was closed. -/
structure Balanced (events : List JoinEvent) : Prop where
  asked_once : ∀ k, events.countP (asks k) ≤ 1
  closed_once : ∀ k p, opened k p ∈ events → events.count (closed k) = 1
  refused_unclosed : ∀ k p, refused k p ∈ events → closed k ∉ events
  quiet : ∀ k after before, events = after ++ closed k :: before →
    read k ∉ after ∧ advanced k ∉ after

/-! ## Fates and events -/

section

variable {k : Nat} {events : List JoinEvent}

/-- Without a misuse a cursor is closed once if that is its fate, and otherwise not at all. -/
theorem count_closed (h : fate k events ≠ .misused) :
    events.count (closed k) = if fate k events = .closed then 1 else 0 := by
  induction events with
  | nil => rfl
  | cons e events ih =>
      by_cases own : e.cursor = k
      · rw [fate_cons_self e own] at h ⊢
        rw [List.count_cons, ih (Fate.next_ne_misused h)]
        subst own
        revert h
        cases fate e.cursor events <;> cases e <;> simp [Fate.next, cursor]
      · have other : e ≠ closed k := fun same => own (by rw [same]; rfl)
        rw [fate_cons_other e own] at h ⊢
        rw [List.count_cons_of_ne other, ih h]

theorem count_asks (h : fate k events ≠ .misused) :
    events.countP (asks k) = if fate k events = .unasked then 0 else 1 := by
  induction events with
  | nil => rfl
  | cons e events ih =>
      by_cases own : e.cursor = k
      · rw [fate_cons_self e own] at h ⊢
        rw [List.countP_cons, ih (Fate.next_ne_misused h)]
        subst own
        revert h
        cases fate e.cursor events <;> cases e <;> simp [Fate.next, cursor, asks]
      · have other : ¬ asks k e = true := fun asked => own <| by
          cases e <;> simp_all [asks, cursor]
        rw [fate_cons_other e own] at h ⊢
        rw [List.countP_cons_of_neg other, ih h]

theorem opened_iff (h : fate k events ≠ .misused) :
    (∃ p, opened k p ∈ events) ↔ fate k events = .reading ∨ fate k events = .closed := by
  induction events with
  | nil => simp [fate]
  | cons e events ih =>
      by_cases own : e.cursor = k
      · rw [fate_cons_self e own] at h ⊢
        simp only [List.mem_cons, exists_or]
        rw [ih (Fate.next_ne_misused h)]
        subst own
        revert h
        cases fate e.cursor events <;> cases e <;> simp [Fate.next, cursor]
      · have other : ∀ p, e ≠ opened k p := fun p same => own (by rw [same]; rfl)
        rw [fate_cons_other e own] at h ⊢
        rw [← ih h]
        simp [fun p => (other p).symm]

theorem fate_of_refused (h : fate k events ≠ .misused) {p : TripleSelector}
    (mem : refused k p ∈ events) : fate k events = .refused := by
  induction events with
  | nil => cases mem
  | cons e events ih =>
      by_cases own : e.cursor = k
      · rw [fate_cons_self e own] at h ⊢
        rcases List.mem_cons.mp mem with rfl | mem
        · revert h
          cases fate k events <;> simp [Fate.next]
        · rw [ih (Fate.next_ne_misused h) mem] at h
          exact absurd (by cases e <;> rfl) h
      · rw [fate_cons_other e own] at h ⊢
        rcases List.mem_cons.mp mem with rfl | mem
        · exact absurd rfl own
        · exact ih h mem

/-- Without a misuse nothing happens to a cursor after it was closed. -/
theorem quiet_of_closed {after before : List JoinEvent}
    (h : fate k (after ++ closed k :: before) ≠ .misused) :
    fate k (after ++ closed k :: before) = .closed ∧ ∀ e ∈ after, e.cursor ≠ k := by
  induction after with
  | nil =>
      have own : (closed k).cursor = k := rfl
      refine ⟨?_, nofun⟩
      rw [List.nil_append, fate_cons_self (closed k) own] at h ⊢
      revert h
      cases fate k before <;> simp [Fate.next]
  | cons e after ih =>
      rw [List.cons_append] at h ⊢
      by_cases own : e.cursor = k
      · rw [fate_cons_self e own] at h
        rw [(ih (Fate.next_ne_misused h)).1] at h
        exact absurd (by cases e <;> rfl) h
      · rw [fate_cons_other e own] at h ⊢
        obtain ⟨closed, quiet⟩ := ih h
        refine ⟨closed, fun d hd => ?_⟩
        rcases List.mem_cons.mp hd with rfl | hd
        · exact own
        · exact quiet d hd

end

/-! ## Logs and the cursors that are open -/

/-- The open cursors of a log are these, `opens` many were asked for, and none was misused. -/
structure Tracks (events : List JoinEvent) (reading : List Nat) (opens : Nat) : Prop where
  distinct : reading.Nodup
  reading_iff : ∀ k, fate k events = .reading ↔ k ∈ reading
  unasked : ∀ k, opens ≤ k → fate k events = .unasked
  sound : ∀ k, fate k events ≠ .misused

namespace Tracks

variable {events : List JoinEvent} {reading reading' : List Nat} {opens k : Nat}

theorem empty : Tracks [] [] 0 :=
  ⟨.nil, fun _ => by simp [fate], fun _ _ => rfl, fun _ => nofun⟩

theorem perm (h : Tracks events reading opens) (same : reading.Perm reading') :
    Tracks events reading' opens :=
  ⟨same.nodup_iff.mp h.distinct, fun k => (h.reading_iff k).trans same.mem_iff, h.unasked, h.sound⟩

theorem lt_opens (h : Tracks events reading opens) (mem : k ∈ reading) : k < opens := by
  refine Nat.lt_of_not_le fun above => ?_
  have unasked := h.unasked k above
  rw [(h.reading_iff k).mpr mem] at unasked
  cases unasked

/-- An event that is no misuse turns the fate of its cursor and of no other. -/
theorem event (h : Tracks events reading opens) {e : JoinEvent} (f : Fate) {opens' : Nat}
    (turns : (fate e.cursor events).next e = f) (sound : f ≠ .misused)
    (asked : e.cursor < opens') (more : opens ≤ opens') (distinct : reading'.Nodup)
    (own : e.cursor ∈ reading' ↔ f = .reading)
    (other : ∀ k, e.cursor ≠ k → (k ∈ reading' ↔ k ∈ reading)) :
    Tracks (e :: events) reading' opens' := by
  have turned : fate e.cursor (e :: events) = f := (fate_cons_self e rfl events).trans turns
  refine ⟨distinct, fun k => ?_, fun k above => ?_, fun k => ?_⟩
  · by_cases same : e.cursor = k
    · rw [← same, turned, own]
    · rw [fate_cons_other e same, h.reading_iff, other k same]
  · rw [fate_cons_other e (by omega)]
    exact h.unasked k (by omega)
  · by_cases same : e.cursor = k
    · rw [← same, turned]
      exact sound
    · rw [fate_cons_other e same]
      exact h.sound k

theorem opened (h : Tracks events reading opens) (p : TripleSelector) :
    Tracks (.opened opens p :: events) (opens :: reading) (opens + 1) := by
  have fresh : fate opens events = .unasked := h.unasked opens (Nat.le_refl _)
  have new : opens ∉ reading := fun mem => Nat.lt_irrefl _ (h.lt_opens mem)
  refine h.event .reading ?_ nofun (Nat.lt_succ_self _) (Nat.le_succ _)
    (List.nodup_cons.mpr ⟨new, h.distinct⟩) (iff_of_true List.mem_cons_self rfl) fun k ne => ?_
  · show (fate opens events).next _ = _
    rw [fresh]
    rfl
  · exact List.mem_cons.trans (or_iff_right fun same => ne same.symm)

theorem refused (h : Tracks events reading opens) (p : TripleSelector) :
    Tracks (.refused opens p :: events) reading (opens + 1) := by
  have fresh : fate opens events = .unasked := h.unasked opens (Nat.le_refl _)
  refine h.event .refused ?_ nofun (Nat.lt_succ_self _) (Nat.le_succ _) h.distinct
    (iff_of_false (fun mem => Nat.lt_irrefl _ (h.lt_opens mem)) nofun) fun _ _ => Iff.rfl
  show (fate opens events).next _ = _
  rw [fresh]
  rfl

theorem used (h : Tracks events reading opens) {e : JoinEvent} (mem : e.cursor ∈ reading)
    (stays : Fate.reading.next e = .reading) : Tracks (e :: events) reading opens := by
  refine h.event .reading ?_ nofun (h.lt_opens mem) (Nat.le_refl _) h.distinct
    (iff_of_true mem rfl) fun _ _ => Iff.rfl
  rw [(h.reading_iff _).mpr mem, stays]

theorem closed (h : Tracks events (k :: reading) opens) :
    Tracks (.closed k :: events) reading opens := by
  obtain ⟨new, distinct⟩ := List.nodup_cons.mp h.distinct
  refine h.event .closed ?_ nofun (h.lt_opens List.mem_cons_self) (Nat.le_refl _) distinct
    (iff_of_false new nofun) fun j ne => ?_
  · show (fate k events).next _ = _
    rw [(h.reading_iff k).mpr List.mem_cons_self]
    rfl
  · exact (List.mem_cons.trans (or_iff_right fun same => ne same.symm)).symm

theorem isOpen_iff (h : Tracks events reading opens) (k : Nat) :
    IsOpen events k ↔ k ∈ reading := by
  have counted := count_closed (h.sound k)
  rw [← h.reading_iff, IsOpen, opened_iff (h.sound k), ← List.count_eq_zero, counted]
  cases fate k events <;> simp

/-- **A log without open cursors is balanced.** -/
theorem balanced (h : Tracks events [] opens) : Balanced events where
  asked_once k := by
    rw [count_asks (h.sound k)]
    split <;> decide
  closed_once k p mem := by
    rcases (opened_iff (h.sound k)).mp ⟨p, mem⟩ with reading | closed
    · cases (h.reading_iff k).mp reading
    · rw [count_closed (h.sound k), if_pos closed]
  refused_unclosed k p mem := by
    rw [← List.count_eq_zero, count_closed (h.sound k), fate_of_refused (h.sound k) mem]
    rfl
  quiet k after before split := by
    subst split
    have quiet := (quiet_of_closed (h.sound k)).2
    exact ⟨fun mem => quiet _ mem rfl, fun mem => quiet _ mem rfl⟩

end Tracks

end JoinEvent

/-! ## Sources and the cursors that are open -/

namespace Backend

variable {ω : Type}

/-- What holds of a source while these cursors of it are open and so many were asked for. -/
abbrev Custody (ω : Type) := ω → List Nat → Nat → Prop

/-- Custody is kept by the calls that a source may expect: a cursor is read and moved while it
is open, and it is given back once, and closed. -/
structure Keeps (b : Backend ω) (K : Custody ω) : Prop where
  perm : ∀ {w reading reading' opens}, K w reading opens → reading.Perm reading' →
    K w reading' opens
  stops : ∀ {w reading opens}, K w reading opens → K (b.stops w).2 reading opens
  opened : ∀ {w reading opens} (p : TripleSelector) (found : List Triple), K w reading opens →
    (b.candidates p w).1 = .ok found → K (b.candidates p w).2 (opens :: reading) (opens + 1)
  refused : ∀ {w reading opens} (p : TripleSelector) (e : MatchError), K w reading opens →
    (b.candidates p w).1 = .error e → K (b.candidates p w).2 reading (opens + 1)
  reads : ∀ {w reading opens k}, K w reading opens → k ∈ reading → K (b.reads k w) reading opens
  moves : ∀ {w reading opens k}, K w reading opens → k ∈ reading →
    K (b.advanceFault k w).2 reading opens
  closes : ∀ {w reading opens k} {c : Cursor}, K w (k :: reading) opens → c.closed = true →
    K (b.closes k c w) reading opens

theorem keeps_any (b : Backend ω) : b.Keeps fun _ _ _ => True := by
  constructor <;> intros <;> trivial

/-- **A log is kept free of misuse** by the calls that a source may expect. -/
theorem logging_keeps (b : Backend ω) :
    b.logging.Keeps fun s reading opens =>
      JoinEvent.Tracks s.events reading opens ∧ s.opens = opens where
  perm := fun ⟨tracks, counted⟩ same => ⟨tracks.perm same, counted⟩
  stops := id
  opened := by
    rintro w reading opens p found ⟨tracks, rfl⟩ answer
    change (b.candidates p w.world).1 = _ at answer
    unfold logging
    dsimp only
    rw [answer]
    exact ⟨tracks.opened p, rfl⟩
  refused := by
    rintro w reading opens p e ⟨tracks, rfl⟩ answer
    change (b.candidates p w.world).1 = _ at answer
    unfold logging
    dsimp only
    rw [answer]
    exact ⟨tracks.refused p, rfl⟩
  reads := fun ⟨tracks, counted⟩ mem => ⟨tracks.used mem rfl, counted⟩
  moves := fun ⟨tracks, counted⟩ mem => ⟨tracks.used mem rfl, counted⟩
  closes := by
    rintro w reading opens k c ⟨tracks, counted⟩ closed
    unfold logging
    dsimp only
    rw [if_pos closed]
    exact ⟨tracks.closed, counted⟩

end Backend

end GraphPattern
