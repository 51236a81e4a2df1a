/-
# Comparisons are a family of orders

Integers, texts and truth values are each in a strict total order (`Value.Below`): by size,
by code points, and false before true.  The six comparisons of two operands of one of these
kinds are that order and what belongs to it (`Coherent`).  Of two terms it is only said
whether they are the same, and of any other pair of values nothing at all: every comparison
is false then, `!=` like the others (`comparisons_coherent`).

Doubles are left out.  They compare with integers too, and NaN with nothing.
-/
import GraphPattern.Proofs.Constraint.Value

namespace GraphPattern

/-! ## The order of texts -/

namespace Text

def codePoints (s : String) : List Nat := s.toList.map Char.toNat

theorem map_toNat_lt {cs ds : List Char} :
    cs.map Char.toNat < ds.map Char.toNat ↔ cs < ds := by
  induction cs generalizing ds with
  | nil => cases ds <;> simp
  | cons c cs ih =>
      cases ds with
      | nil => simp
      | cons d ds =>
          rw [List.map_cons, List.map_cons, List.cons_lt_cons_iff, List.cons_lt_cons_iff, ih,
            Char.toNat_inj]
          rfl

theorem codePoints_lt {s t : String} : codePoints s < codePoints t ↔ s < t :=
  map_toNat_lt.trans String.lt_iff.symm

theorem lt_or_eq_or_gt (s t : String) : s < t ∨ s = t ∨ t < s := by
  by_cases less : s < t
  · exact .inl less
  by_cases greater : t < s
  · exact .inr (.inr greater)
  · exact .inr (.inl (String.le_antisymm (String.not_lt.mp greater) (String.not_lt.mp less)))

end Text

namespace Value

/-! ## Kinds with an order -/

/-- Two values of one ordered kind, the smaller one first. -/
inductive Below : Value → Value → Prop where
  | integer {m n : Int} (h : m < n) : Below (integer m) (integer n)
  | text {s t : String} (h : Text.codePoints s < Text.codePoints t) : Below (text s) (text t)
  | boolean : Below (boolean false) (boolean true)

/-- Two values of one ordered kind. -/
inductive Akin : Value → Value → Prop where
  | integer (m n : Int) : Akin (integer m) (integer n)
  | text (s t : String) : Akin (text s) (text t)
  | boolean (b c : Bool) : Akin (boolean b) (boolean c)

variable {u v w : Value}

theorem Below.irrefl (v : Value) : ¬ Below v v := by
  intro h
  cases h with
  | integer h => omega
  | text h => exact String.lt_irrefl _ (Text.codePoints_lt.mp h)

theorem Below.trans (h : Below u v) (h' : Below v w) : Below u w := by
  cases h with
  | integer h =>
      cases h' with
      | integer h' => exact .integer (Int.lt_trans h h')
  | text h =>
      cases h' with
      | text h' =>
          have less := String.lt_trans (Text.codePoints_lt.mp h) (Text.codePoints_lt.mp h')
          exact .text (Text.codePoints_lt.mpr less)
  | boolean => cases h'

theorem Below.akin (h : Below v w) : Akin v w := by
  cases h with
  | integer => exact .integer ..
  | text => exact .text ..
  | boolean => exact .boolean ..

theorem Akin.symm (h : Akin v w) : Akin w v := by
  cases h with
  | integer => exact .integer ..
  | text => exact .text ..
  | boolean => exact .boolean ..

/-! ## Comparing two values -/

/-- Two values of one ordered kind are in an order: the first one is below the second one,
the same, or above it. -/
def InOrder (v w : Value) : Ordering → Prop
  | .lt => Below v w
  | .eq => v = w
  | .gt => Below w v

theorem Akin.exists_inOrder (h : Akin v w) : ∃ o, InOrder v w o := by
  cases h with
  | integer m n =>
      rcases Int.lt_trichotomy m n with less | same | greater
      · exact ⟨.lt, .integer less⟩
      · exact ⟨.eq, congrArg Value.integer same⟩
      · exact ⟨.gt, .integer greater⟩
  | text s t =>
      rcases Text.lt_or_eq_or_gt s t with less | same | greater
      · exact ⟨.lt, .text (Text.codePoints_lt.mpr less)⟩
      · exact ⟨.eq, congrArg Value.text same⟩
      · exact ⟨.gt, .text (Text.codePoints_lt.mpr greater)⟩
  | boolean b c =>
      cases b <;> cases c
      · exact ⟨.eq, rfl⟩
      · exact ⟨.lt, .boolean⟩
      · exact ⟨.gt, .boolean⟩
      · exact ⟨.eq, rfl⟩

section Relation

variable {α : Type} {R : α → α → Prop} [DecidableRel R] {a b : α}

theorem orderOf_of_rel (less : R a b) (asymm : ¬ R b a) :
    orderOf (fun a b => decide (R a b)) a b = .lt ∧
      orderOf (fun a b => decide (R a b)) b a = .gt := by
  simp [orderOf, less, asymm]

theorem orderOf_self (irrefl : ¬ R a a) : orderOf (fun a b => decide (R a b)) a a = .eq := by
  simp [orderOf, irrefl]

end Relation

theorem Below.compare? (h : Below v w) : compare? v w = some .lt ∧ compare? w v = some .gt := by
  cases h with
  | integer less =>
      have order := orderOf_of_rel (R := fun a b : Int => a < b) less (Int.lt_asymm less)
      exact ⟨congrArg some order.1, congrArg some order.2⟩
  | text below =>
      have less := Text.codePoints_lt.mp below
      have order := orderOf_of_rel (R := fun a b : String => a < b) less (String.lt_asymm less)
      exact ⟨congrArg some order.1, congrArg some order.2⟩
  | boolean => exact ⟨rfl, rfl⟩

theorem Akin.compare?_self (h : Akin v v) : compare? v v = some .eq := by
  cases h with
  | integer n => exact congrArg some (orderOf_self (Int.lt_irrefl n))
  | text s => exact congrArg some (orderOf_self (String.lt_irrefl s))
  | boolean b => cases b <;> rfl

theorem InOrder.compare?_eq {o : Ordering} (h : InOrder v w o) (akin : Akin v w) :
    compare? v w = some o := by
  cases o with
  | lt => exact Below.compare? h |>.1
  | eq =>
      obtain rfl : v = w := h
      exact akin.compare?_self
  | gt => exact Below.compare? h |>.2

theorem compare?_eq_some_iff (akin : Akin v w) {o : Ordering} :
    compare? v w = some o ↔ InOrder v w o := by
  constructor
  · intro compared
    obtain ⟨o', inOrder⟩ := akin.exists_inOrder
    obtain rfl : o' = o := Option.some.inj ((inOrder.compare?_eq akin).symm.trans compared)
    exact inOrder
  · intro inOrder
    exact inOrder.compare?_eq akin

theorem compare_of_akin (h : Akin v w) {o : Ordering} (compared : compare? v w = some o)
    (op : BinaryOp) : compare op v w = holdsFor op o := by
  cases h <;> simp only [compare, compared]

def NonDouble (v : Value) : Prop := ∀ x, v ≠ double x

def BothTerms (v w : Value) : Prop := ∃ t u, v = term t ∧ w = term u

theorem eq_integer_of_number? (nonDouble : v.NonDouble) {x : Float} (h : v.number? = some x) :
    ∃ n, v = integer n := by
  cases v with
  | integer n => exact ⟨n, rfl⟩
  | double y => exact absurd rfl (nonDouble y)
  | _ => cases h

theorem compare?_eq_none (hv : v.NonDouble) (hw : w.NonDouble) (apart : ¬ Akin v w) :
    compare? v w = none := by
  unfold compare?
  split
  · exact absurd (.integer ..) apart
  · exact absurd (.text ..) apart
  · exact absurd (.boolean ..) apart
  · split
    · next x y left right =>
        -- the values are numbers, and without doubles they are two integers
        obtain ⟨m, rfl⟩ := eq_integer_of_number? hv left
        obtain ⟨n, rfl⟩ := eq_integer_of_number? hw right
        exact absurd (.integer ..) apart
    · rfl

theorem compare_eq_false (hv : v.NonDouble) (hw : w.NonDouble) (apart : ¬ Akin v w)
    (terms : ¬ BothTerms v w) (op : BinaryOp) : compare op v w = false := by
  unfold compare
  split
  · next t u => exact absurd ⟨t, u, rfl, rfl⟩ terms
  · rw [compare?_eq_none hv hw apart]

end Value

/-! ## Comparisons of expressions -/

def BinaryOp.comparisons : List BinaryOp := [eq, ne, lt, le, gt, ge]

namespace Expression

/-- An operator between two operands gives true. -/
def Says (T : VariableTable) (cache : RegexCache) (op : BinaryOp) (l r : Expression) : Prop :=
  (((binary op l r).eval T).run cache).1 = .ok (.boolean true)

/-- What the comparisons of two operands of one ordered kind say: one of `<`, `==` and `>`,
each of the others what its sign says, and the mirror image if the operands are
exchanged. -/
structure Coherent (judges : BinaryOp → Expression → Expression → Prop) (l r : Expression) :
    Prop where
  one : (judges .lt l r ∧ ¬ judges .eq l r ∧ ¬ judges .gt l r) ∨
    (¬ judges .lt l r ∧ judges .eq l r ∧ ¬ judges .gt l r) ∨
    (¬ judges .lt l r ∧ ¬ judges .eq l r ∧ judges .gt l r)
  ne : judges .ne l r ↔ ¬ judges .eq l r
  le : judges .le l r ↔ judges .lt l r ∨ judges .eq l r
  ge : judges .ge l r ↔ judges .gt l r ∨ judges .eq l r
  lt_swap : judges .lt l r ↔ judges .gt r l
  eq_swap : judges .eq l r ↔ judges .eq r l

section Compared

variable {T : VariableTable} {cache : RegexCache} (reached : cache.Reached)
  {l r s : Expression} {u v w : Value} (hl : l.value T = .ok v) (hr : r.value T = .ok w)

include reached hl hr

theorem eval_comparison {op : BinaryOp} (h : op ∈ BinaryOp.comparisons) :
    (((binary op l r).eval T).run cache).1 = .ok (.boolean (Value.compare op v w)) := by
  rw [eval_of_reached T _ reached]
  simp only [BinaryOp.comparisons, List.mem_cons, List.not_mem_nil, or_false] at h
  rcases h with rfl | rfl | rfl | rfl | rfl | rfl <;>
    rw [value_binary T (by decide) (by decide), hl, hr] <;> rfl

theorem says_iff {op : BinaryOp} (h : op ∈ BinaryOp.comparisons) :
    Says T cache op l r ↔ Value.compare op v w = true := by
  rw [Says, eval_comparison reached hl hr h]
  constructor
  · intro same
    exact Value.boolean.inj (Except.ok.inj same)
  · intro holds
    rw [holds]

/-- Two operands of one ordered kind are in an order, and it decides every comparison. -/
theorem exists_says (akin : v.Akin w) :
    ∃ o, v.InOrder w o ∧ ∀ op ∈ BinaryOp.comparisons,
      Says T cache op l r ↔ Value.holdsFor op o = true := by
  obtain ⟨o, inOrder⟩ := akin.exists_inOrder
  refine ⟨o, inOrder, ?_⟩
  intro op mem
  rw [says_iff reached hl hr mem, Value.compare_of_akin akin (inOrder.compare?_eq akin)]

theorem says_iff_inOrder (akin : v.Akin w) {op : BinaryOp} (h : op ∈ BinaryOp.comparisons)
    {o : Ordering} (only : ∀ o', Value.holdsFor op o' = true ↔ o' = o) :
    Says T cache op l r ↔ v.InOrder w o := by
  obtain ⟨o', inOrder, said⟩ := exists_says reached hl hr akin
  rw [said op h, only, ← Value.compare?_eq_some_iff akin, inOrder.compare?_eq akin]
  exact Option.some_inj.symm

theorem says_lt_iff (akin : v.Akin w) : Says T cache .lt l r ↔ v.Below w :=
  says_iff_inOrder reached hl hr akin (o := .lt) (by decide) (by decide)

theorem says_eq_iff (akin : v.Akin w) : Says T cache .eq l r ↔ v = w :=
  says_iff_inOrder reached hl hr akin (o := .eq) (by decide) (by decide)

theorem says_gt_iff (akin : v.Akin w) : Says T cache .gt l r ↔ w.Below v :=
  says_iff_inOrder reached hl hr akin (o := .gt) (by decide) (by decide)

theorem coherent (akin : v.Akin w) : Coherent (Says T cache) l r := by
  obtain ⟨o, -, said⟩ := exists_says reached hl hr akin
  simp only [BinaryOp.comparisons, List.forall_mem_cons] at said
  obtain ⟨eq, ne, lt, le, gt, ge, -⟩ := said
  constructor
  case one =>
    rw [lt, eq, gt]
    cases o <;> decide
  case ne =>
    rw [ne, eq]
    cases o <;> decide
  case le =>
    rw [le, lt, eq]
    cases o <;> decide
  case ge =>
    rw [ge, gt, eq]
    cases o <;> decide
  case lt_swap => rw [says_lt_iff reached hl hr akin, says_gt_iff reached hr hl akin.symm]
  case eq_swap =>
    rw [says_eq_iff reached hl hr akin, says_eq_iff reached hr hl akin.symm]
    exact eq_comm

/-- Where there is no kind with an order and no two terms, every comparison is false. -/
theorem eval_comparison_apart (hv : v.NonDouble) (hw : w.NonDouble) (apart : ¬ v.Akin w)
    (terms : ¬ v.BothTerms w) {op : BinaryOp} (h : op ∈ BinaryOp.comparisons) :
    (((binary op l r).eval T).run cache).1 = .ok (.boolean false) := by
  rw [eval_comparison reached hl hr h, Value.compare_eq_false hv hw apart terms]

theorem akin_of_says_lt (hv : v.NonDouble) (hw : w.NonDouble) (less : Says T cache .lt l r) :
    v.Akin w := by
  by_cases akin : v.Akin w
  · exact akin
  by_cases terms : v.BothTerms w
  · obtain ⟨t, u, rfl, rfl⟩ := terms
    rw [says_iff reached hl hr (by decide)] at less
    cases less
  · rw [Says, eval_comparison_apart reached hl hr hv hw akin terms (by decide)] at less
    cases less

theorem says_lt_trans (hv : v.NonDouble) (hw : w.NonDouble) (hu : u.NonDouble)
    (hs : s.value T = .ok u) (less : Says T cache .lt l r) (less' : Says T cache .lt r s) :
    Says T cache .lt l s := by
  have akin := akin_of_says_lt reached hl hr hv hw less
  have akin' := akin_of_says_lt reached hr hs hw hu less'
  have below := (says_lt_iff reached hl hr akin).mp less
  have below' := (says_lt_iff reached hr hs akin').mp less'
  have between := below.trans below'
  exact (says_lt_iff reached hl hs between.akin).mpr between

end Compared

/-- **Comparisons are coherent.**  None of them fails on operands with values.  On two
integers, two texts or two truth values they are a strict total order and what belongs to
it; on two terms they tell whether these are the same; and they are false on every other
pair of values, and so on an operand without one. -/
theorem comparisons_coherent {T : VariableTable} {cache : RegexCache} (reached : cache.Reached)
    {l r : Expression} {v w : Value} (hl : l.value T = .ok v) (hr : r.value T = .ok w)
    (hv : v.NonDouble) (hw : w.NonDouble) :
    (∀ op ∈ BinaryOp.comparisons,
      ∃ b, (((binary op l r).eval T).run cache).1 = .ok (.boolean b)) ∧
    (v.Akin w → Coherent (Says T cache) l r ∧ (Says T cache .lt l r ↔ v.Below w) ∧
      (Says T cache .eq l r ↔ v = w) ∧ ¬ Says T cache .lt l l ∧
      ∀ s u, s.value T = .ok u → u.NonDouble → Says T cache .lt l r → Says T cache .lt r s →
        Says T cache .lt l s) ∧
    (∀ t u, v = .term t → w = .term u → (Says T cache .eq l r ↔ t = u) ∧
      (Says T cache .ne l r ↔ t ≠ u) ∧
      ∀ op ∈ [BinaryOp.lt, .le, .gt, .ge], ¬ Says T cache op l r) ∧
    (¬ v.Akin w → ¬ v.BothTerms w → ∀ op ∈ BinaryOp.comparisons,
      (((binary op l r).eval T).run cache).1 = .ok (.boolean false)) := by
  refine ⟨?_, ?_, ?_, ?_⟩
  · intro op mem
    exact ⟨_, eval_comparison reached hl hr mem⟩
  · intro akin
    refine ⟨coherent reached hl hr akin, says_lt_iff reached hl hr akin,
      says_eq_iff reached hl hr akin, ?_, ?_⟩
    · intro less
      have own := akin_of_says_lt reached hl hl hv hv less
      exact Value.Below.irrefl v ((says_lt_iff reached hl hl own).mp less)
    · intro s u hs hu less less'
      exact says_lt_trans reached hl hr hv hw hu hs less less'
  · rintro t u rfl rfl
    refine ⟨?_, ?_, ?_⟩
    · rw [says_iff reached hl hr (by decide)]
      exact decide_eq_true_iff
    · rw [says_iff reached hl hr (by decide)]
      exact decide_eq_true_iff
    · intro op mem
      simp only [List.mem_cons, List.not_mem_nil, or_false] at mem
      rcases mem with rfl | rfl | rfl | rfl <;>
        rw [says_iff reached hl hr (by decide)] <;> exact Bool.false_ne_true
  · intro apart terms op mem
    exact eval_comparison_apart reached hl hr hv hw apart terms mem

/-- The integer seven, written with a sign, zeros and blanks. -/
def paddedSeven : Expression := const (.literal (.typed " +007 " Iri.xsdInteger))

theorem paddedSeven_less :
    paddedSeven.value .empty = .ok (.integer 7) ∧
      Coherent (Says .empty .empty) paddedSeven (const (.literal (.ofInt 8))) ∧
      Says .empty .empty .lt paddedSeven (const (.literal (.ofInt 8))) ∧
      ∀ op ∈ BinaryOp.comparisons, (((binary op paddedSeven (const (.literal (.plain "7")))).eval
        .empty).run .empty).1 = .ok (.boolean false) := by
  have seven : paddedSeven.value .empty = .ok (.integer 7) := rfl
  have eight : (const (.literal (.ofInt 8))).value .empty = .ok (.integer 8) := rfl
  have text : (const (.literal (.plain "7"))).value .empty = .ok (.text "7") := rfl
  have numbers := (comparisons_coherent .fresh seven eight (fun _ => nofun) fun _ => nofun).2.1
    (.integer 7 8)
  have mixed := (comparisons_coherent .fresh seven text (fun _ => nofun) fun _ => nofun).2.2.2
    nofun nofun
  exact ⟨seven, numbers.1, numbers.2.1.mpr (.integer (by decide)), mixed⟩

end Expression

end GraphPattern
