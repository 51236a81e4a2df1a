/-
The order in which a join comes to its end.

The rank of a join is a list of entries, the most weighty first: one for the join as a
whole, then one for each place of the plan.  An entry is a pair of numbers, compared
by its first part and then by its second.  Ranks of one length are compared by their
first difference.  No rank decreases forever.
-/

namespace GraphPattern

/-- How much is left to do at one place. -/
abbrev RankEntry := Nat × Nat

/-- Less is left to do. -/
def EntryBelow : RankEntry → RankEntry → Prop := Prod.Lex (· < ·) (· < ·)

/-- Ranks of one length, compared by their first difference. -/
inductive RankBelow : List RankEntry → List RankEntry → Prop where
  | head {a b : RankEntry} {as bs : List RankEntry} (h : EntryBelow a b)
    (same : as.length = bs.length) : RankBelow (a :: as) (b :: bs)
  | tail {as bs : List RankEntry} (a : RankEntry) (h : RankBelow as bs) :
    RankBelow (a :: as) (a :: bs)

namespace EntryBelow

theorem acc (a : RankEntry) : Acc EntryBelow a :=
  (Prod.lex Nat.lt_wfRel Nat.lt_wfRel).wf.apply a

theorem trans {a b c : RankEntry} (h : EntryBelow a b) (h' : EntryBelow b c) :
    EntryBelow a c := by
  cases h with
  | left _ _ h =>
    cases h' with
    | left _ _ h' => exact .left _ _ (Nat.lt_trans h h')
    | right _ _ => exact .left _ _ h
  | right _ h =>
    cases h' with
    | left _ _ h' => exact .left _ _ h'
    | right _ h' => exact .right _ (Nat.lt_trans h h')

theorem of_second {m n : Nat} (k : Nat) (h : m < n) : EntryBelow (k, m) (k, n) := .right _ h

theorem of_first {j k : Nat} (m n : Nat) (h : j < k) : EntryBelow (j, m) (k, n) := .left _ _ h

end EntryBelow

namespace RankBelow

theorem length_eq {as bs : List RankEntry} (h : RankBelow as bs) : as.length = bs.length := by
  induction h with
  | head _ same => simp [same]
  | tail _ _ ih => simp [ih]

theorem trans {as bs cs : List RankEntry} (h : RankBelow as bs) (h' : RankBelow bs cs) :
    RankBelow as cs := by
  induction h generalizing cs with
  | head h same =>
    cases h' with
    | head h' same' => exact .head (h.trans h') (same.trans same')
    | tail _ h' => exact .head h (same.trans h'.length_eq)
  | tail a h ih =>
    cases h' with
    | head h' same' => exact .head h' (h.length_eq.trans same')
    | tail _ h' => exact .tail a (ih h')

theorem acc_nil : Acc RankBelow [] := ⟨_, fun _ h => nomatch h⟩

/-- A rank is accessible if its first entry is and all ranks of the length of the
others are. -/
theorem acc_cons (n : Nat) (all : ∀ as : List RankEntry, as.length = n → Acc RankBelow as)
    (a : RankEntry) (ha : Acc EntryBelow a) :
    ∀ as : List RankEntry, as.length = n → Acc RankBelow (a :: as) := by
  induction ha with
  | intro a _ iha =>
    intro as hlen
    have has := all as hlen
    induction has with
    | intro as _ ihs =>
      constructor
      intro r h
      cases h with
      | head h same => exact iha _ h _ (same.trans hlen)
      | tail _ h => exact ihs _ h (h.length_eq.trans hlen)

theorem acc_of_length (n : Nat) : ∀ as : List RankEntry, as.length = n → Acc RankBelow as := by
  induction n with
  | zero =>
    intro as h
    rw [List.eq_nil_of_length_eq_zero h]
    exact acc_nil
  | succ n ih =>
    intro as h
    cases as with
    | nil => cases h
    | cons a as => exact acc_cons n ih a (EntryBelow.acc a) as (Nat.succ.inj h)

theorem wellFounded : WellFounded RankBelow := ⟨fun as => acc_of_length _ as rfl⟩

/-- A difference decides behind entries none of which is raised. -/
theorem append_of_le {α : Type} {f g : α → RankEntry} {front : List α}
    (le : ∀ x ∈ front, f x = g x ∨ EntryBelow (f x) (g x)) {as bs : List RankEntry}
    (h : RankBelow as bs) : RankBelow (front.map f ++ as) (front.map g ++ bs) := by
  induction front with
  | nil => exact h
  | cons x front ih =>
    have ih := ih fun y hy => le y (List.mem_cons_of_mem _ hy)
    rw [List.map_cons, List.map_cons, List.cons_append, List.cons_append]
    rcases le x List.mem_cons_self with same | below
    · rw [same]
      exact .tail _ ih
    · exact .head below ih.length_eq

end RankBelow

/-- How much a join has left to do. -/
structure Rank where
  entries : List RankEntry
deriving DecidableEq, Repr

/-- Ranks are compared by their first difference. -/
instance : WellFoundedRelation Rank where
  rel a b := RankBelow a.entries b.entries
  wf := InvImage.wf Rank.entries RankBelow.wellFounded

end GraphPattern
