import RecordGrid.Expr.Eval
import RecordGrid.Proofs.Number.Order

/-!
# Comparisons of values

Equality and order read values in one way, as numbers where both can be and as
texts where not.  Exchanging two values mirrors what is said of them, and what is
below a value equals it only where two numbers are closer than equality tells apart.
-/

namespace RecordGrid

namespace Scalar

/-- What makes two values equal: both are blank, they are one text, they are numbers
close to each other, or one of them is no number and they are written alike. -/
inductive Alike : Scalar → Scalar → Prop
  | blank {l r : Scalar} (hl : l.isBlank = true) (hr : r.isBlank = true) : Alike l r
  | sameText (s : String) : Alike (.text s) (.text s)
  | close {l r : Scalar} {x y : Float}
      (hl : l.comparable? = some x) (hr : r.comparable? = some y)
      (hclose : (x - y).abs < closeness) : Alike l r
  | sameReading {l r : Scalar} (hl : l.isBlank = false) (hr : r.isBlank = false)
      (hnone : l.comparable? = none ∨ r.comparable? = none) (hsame : l.asText = r.asText) :
      Alike l r

variable {l r : Scalar} {x y : Float}

/-! ## Order -/

theorem compareNumbers_eq (x y : Float) :
    compareNumbers x y = x.toModel.unpack.compare y.toModel.unpack := by
  unfold compareNumbers
  by_cases hlt : x < y
  · rw [if_pos hlt, Float.lt_iff.1 hlt]
  by_cases heq : (x == y) = true
  · rw [if_neg hlt, if_pos heq, Float.beq_iff.1 heq]
  by_cases hgt : y < x
  · rw [if_neg hlt, if_neg heq, if_pos hgt, Float.gt_iff.1 hgt]
  rw [if_neg hlt, if_neg heq, if_neg hgt]
  rw [Float.lt_iff] at hlt
  rw [Float.beq_iff] at heq
  rw [Float.gt_iff] at hgt
  cases ho : x.toModel.unpack.compare y.toModel.unpack with
  | none => rfl
  | some o =>
      cases o with
      | lt => exact absurd ho hlt
      | eq => exact absurd ho heq
      | gt => exact absurd ho hgt

theorem compareNumbers_swap (x y : Float) :
    (compareNumbers x y).map Ordering.swap = compareNumbers y x := by
  rw [compareNumbers_eq, compareNumbers_eq, UnpackedFloat.compare_swap]

theorem compareTexts_eq (s t : String) : compareTexts s t = compare s t := rfl

theorem compareTexts_swap (s t : String) : (compareTexts s t).swap = compareTexts t s := by
  rw [compareTexts_eq, compareTexts_eq]
  exact Std.OrientedCmp.eq_swap.symm

theorem order?_of_comparable (hl : l.comparable? = some x) (hr : r.comparable? = some y) :
    l.order? r = compareNumbers x y := by
  rw [order?, hl, hr]

/-- Exchanging two values mirrors their order. -/
theorem order?_swap (l r : Scalar) : (l.order? r).map Ordering.swap = r.order? l := by
  unfold order?
  cases l.comparable? with
  | none => cases r.comparable? <;> exact congrArg some (compareTexts_swap ..)
  | some x =>
      cases r.comparable? with
      | none => exact congrArg some (compareTexts_swap ..)
      | some y => exact compareNumbers_swap x y

theorem compared_swap (test : Ordering → Bool) (l r : Scalar) :
    compared (fun o => test o.swap) l r = compared test r l := by
  rw [compared, compared, ← order?_swap l r, Option.any_map]

/-! ## Equality -/

theorem Alike.symm (h : Alike l r) : Alike r l := by
  cases h with
  | blank hl hr => exact .blank hr hl
  | sameText s => exact .sameText s
  | close hl hr hclose => exact .close hr hl (Float.abs_sub_comm .. ▸ hclose)
  | sameReading hl hr hnone hsame => exact .sameReading hr hl hnone.symm hsame.symm

theorem comparable?_of_isBlank (hl : l.isBlank = true) : l.comparable? = none := by
  cases l with
  | number x => cases hl
  | text s =>
      obtain rfl : s = "" := String.isEmpty_iff.1 hl
      rfl
  | boolean b => cases hl
  | empty => rfl

theorem asText_of_isBlank (hl : l.isBlank = true) : l.asText = "" := by
  cases l with
  | number x => cases hl
  | text s => exact String.isEmpty_iff.1 hl
  | boolean b => cases hl
  | empty => rfl

theorem not_isBlank_of_comparable (hl : l.comparable? = some x) : l.isBlank = false := by
  rw [← Bool.not_eq_true]
  intro hblank
  rw [comparable?_of_isBlank hblank] at hl
  cases hl

/-- Whether two values are equal as numbers or, where one of them is none, as texts. -/
def readsAs (l r : Scalar) : Bool :=
  match l.comparable?, r.comparable? with
  | some x, some y => decide ((x - y).abs < closeness)
  | _, _ => l.asText == r.asText

theorem readsAs_of_close (hl : l.comparable? = some x) (hr : r.comparable? = some y) :
    readsAs l r = decide ((x - y).abs < closeness) := by
  rw [readsAs, hl, hr]

theorem readsAs_of_none (hnone : l.comparable? = none ∨ r.comparable? = none) :
    readsAs l r = (l.asText == r.asText) := by
  unfold readsAs
  rcases hnone with hnone | hnone
  · rw [hnone]
  · rw [hnone]
    cases l.comparable? <;> rfl

theorem Alike.of_readsAs (hl : l.isBlank = false) (hr : r.isBlank = false)
    (h : readsAs l r = true) : Alike l r := by
  cases hx : l.comparable? with
  | none =>
      rw [readsAs_of_none (.inl hx), beq_iff_eq] at h
      exact .sameReading hl hr (.inl hx) h
  | some x =>
      cases hy : r.comparable? with
      | none =>
          rw [readsAs_of_none (.inr hy), beq_iff_eq] at h
          exact .sameReading hl hr (.inr hy) h
      | some y =>
          rw [readsAs_of_close hx hy, decide_eq_true_iff] at h
          exact .close hx hy h

theorem readsAs_booleans (a b : Bool) : readsAs (.boolean a) (.boolean b) = (a == b) := by
  cases a <;> cases b <;> rfl

/-- Equality of two values neither of which is blank. -/
def equalFilled (l r : Scalar) : Bool :=
  match l, r with
  | .text s, .text t => s == t || readsAs l r
  | .boolean a, .boolean b => a == b
  | _, _ => readsAs l r

theorem looselyEqual_eq (l r : Scalar) :
    l.looselyEqual r =
      if l.isBlank || r.isBlank then l.isBlank && r.isBlank else equalFilled l r := rfl

/-- Two texts are equal where they are one text, even one that is read as a number. -/
theorem equalFilled_iff :
    equalFilled l r = true ↔ readsAs l r = true ∨ ∃ s, l = .text s ∧ r = .text s := by
  unfold equalFilled
  split
  · rename_i s t
    rw [Bool.or_eq_true, beq_iff_eq, or_comm]
    refine or_congr_right ⟨?_, ?_⟩
    · rintro rfl
      exact ⟨s, rfl, rfl⟩
    · rintro ⟨_, hs, ht⟩
      exact Scalar.text.inj (hs.trans ht.symm)
  · rename_i a b
    rw [readsAs_booleans]
    exact ⟨.inl, fun h => h.resolve_right fun ⟨_, hnone, _⟩ => nomatch hnone⟩
  · rename_i htexts _
    exact ⟨.inl, fun h => h.resolve_right fun ⟨s, hs, ht⟩ => htexts s s hs ht⟩

theorem Alike.isBlank_eq (h : Alike l r) : l.isBlank = r.isBlank := by
  cases h with
  | blank hl hr => rw [hl, hr]
  | sameText s => rfl
  | close hl hr => rw [not_isBlank_of_comparable hl, not_isBlank_of_comparable hr]
  | sameReading hl hr => rw [hl, hr]

theorem equalFilled_of_alike (hl : l.isBlank = false) (h : Alike l r) :
    equalFilled l r = true := by
  rw [equalFilled_iff]
  cases h with
  | blank hblank => exact absurd hblank (hl ▸ Bool.false_ne_true)
  | sameText s => exact .inr ⟨s, rfl, rfl⟩
  | close hx hy hclose => exact .inl ((readsAs_of_close hx hy).trans (decide_eq_true hclose))
  | sameReading _ _ hnone hsame =>
      exact .inl ((readsAs_of_none hnone).trans (beq_iff_eq.2 hsame))

theorem Alike.of_equalFilled (hl : l.isBlank = false) (hr : r.isBlank = false)
    (h : equalFilled l r = true) : Alike l r := by
  obtain hreads | ⟨s, rfl, rfl⟩ := equalFilled_iff.1 h
  · exact .of_readsAs hl hr hreads
  · exact .sameText s

theorem looselyEqual_iff : l.looselyEqual r = true ↔ Alike l r := by
  rw [looselyEqual_eq]
  by_cases hblank : (l.isBlank || r.isBlank) = true
  · rw [if_pos hblank, Bool.and_eq_true]
    refine ⟨fun h => .blank h.1 h.2, fun h => ?_⟩
    rw [h.isBlank_eq, Bool.or_self] at hblank
    exact ⟨h.isBlank_eq.trans hblank, hblank⟩
  · rw [if_neg hblank]
    obtain ⟨hl, hr⟩ : l.isBlank = false ∧ r.isBlank = false := by
      rwa [Bool.not_eq_true, Bool.or_eq_false_iff] at hblank
    exact ⟨.of_equalFilled hl hr, equalFilled_of_alike hl⟩

theorem looselyEqual_comm (l r : Scalar) : l.looselyEqual r = r.looselyEqual l := by
  rw [Bool.eq_iff_iff, looselyEqual_iff, looselyEqual_iff]
  exact ⟨Alike.symm, Alike.symm⟩

/-! ## Equality beside order -/

theorem order?_self_ne_lt (l : Scalar) : l.order? l ≠ some .lt := by
  intro hbelow
  have hswap := order?_swap l l
  rw [hbelow] at hswap
  cases hswap

theorem order?_of_sameText (hnone : l.comparable? = none ∨ r.comparable? = none)
    (hsame : l.asText = r.asText) : l.order? r = some .eq := by
  have htexts : l.order? r = some (compareTexts l.asText r.asText) := by
    unfold order?
    rcases hnone with hnone | hnone
    · rw [hnone]
    · rw [hnone]
      cases l.comparable? <;> rfl
  have hself : compare r.asText r.asText = .eq := Std.ReflCmp.compare_self
  rw [htexts, hsame, compareTexts_eq, hself]

/-- What is below a value equals it only where both are numbers, closer to each other
than equality tells apart. -/
theorem equal_and_below_iff :
    l.looselyEqual r = true ∧ l.order? r = some .lt ↔
      ∃ x y, l.comparable? = some x ∧ r.comparable? = some y ∧
        x < y ∧ (x - y).abs < closeness := by
  rw [looselyEqual_iff]
  constructor
  · rintro ⟨halike, hbelow⟩
    cases halike with
    | blank hl hr =>
        have hsame : l.asText = r.asText := by rw [asText_of_isBlank hl, asText_of_isBlank hr]
        rw [order?_of_sameText (.inl (comparable?_of_isBlank hl)) hsame] at hbelow
        cases hbelow
    | sameText s => exact absurd hbelow (order?_self_ne_lt _)
    | close hl hr hclose =>
        rw [order?_of_comparable hl hr, compareNumbers_eq, ← Float.lt_iff] at hbelow
        exact ⟨_, _, hl, hr, hbelow, hclose⟩
    | sameReading _ _ hnone hsame =>
        rw [order?_of_sameText hnone hsame] at hbelow
        cases hbelow
  · rintro ⟨x, y, hl, hr, hbelow, hclose⟩
    refine ⟨.close hl hr hclose, ?_⟩
    rw [order?_of_comparable hl hr, compareNumbers_eq, ← Float.lt_iff]
    exact hbelow

end Scalar

namespace Expr

variable {row : Row} {a b : Expr} {l r : Scalar}

/-- The expression, as a condition, holds on a record. -/
def HoldsOn (row : Row) (e : Expr) : Prop := e.eval row = .ok (.boolean true)

theorem eval_binary_of_ok (op : BinaryOp) (ha : a.eval row = .ok l) (hb : b.eval row = .ok r) :
    eval row (.binary op a b) = op.apply l r := by
  rw [eval, ha, hb]

theorem holdsOn_equal_iff (ha : a.eval row = .ok l) (hb : b.eval row = .ok r) :
    HoldsOn row (.binary .equal a b) ↔ l.looselyEqual r = true := by
  rw [HoldsOn, eval_binary_of_ok .equal ha hb, BinaryOp.apply, Except.ok.injEq,
    Scalar.boolean.injEq]

theorem holdsOn_less_iff (ha : a.eval row = .ok l) (hb : b.eval row = .ok r) :
    HoldsOn row (.binary .less a b) ↔ l.order? r = some .lt := by
  rw [HoldsOn, eval_binary_of_ok .less ha hb, BinaryOp.apply, Scalar.compared, Except.ok.injEq,
    Scalar.boolean.injEq]
  rcases l.order? r with _ | _ | _ | _ <;> decide

/-- The comparisons of two expressions with values `l` and `r` fit together. -/
structure ComparisonsAgree (row : Row) (a b : Expr) (l r : Scalar) : Prop where
  /-- Equality goes both ways, and inequality is its negation. -/
  equal : ∃ same,
    eval row (.binary .equal a b) = .ok (.boolean same) ∧
    eval row (.binary .equal b a) = .ok (.boolean same) ∧
    eval row (.binary .notEqual a b) = .ok (.boolean !same)
  less : ∃ below,
    eval row (.binary .less a b) = .ok (.boolean below) ∧
    eval row (.binary .greater b a) = .ok (.boolean below)
  lessEqual : ∃ upTo,
    eval row (.binary .lessEqual a b) = .ok (.boolean upTo) ∧
    eval row (.binary .greaterEqual b a) = .ok (.boolean upTo)
  /-- Both hold of numbers that are too close for equality to tell them apart, and of
  nothing else. -/
  equalAndLess :
    HoldsOn row (.binary .equal a b) ∧ HoldsOn row (.binary .less a b) ↔
      ∃ x y, l.comparable? = some x ∧ r.comparable? = some y ∧
        x < y ∧ (x - y).abs < Scalar.closeness

/-- Whatever two expressions come to, as long as neither faults, their comparisons
agree with each other. -/
theorem comparisons_agree (ha : a.eval row = .ok l) (hb : b.eval row = .ok r) :
    ComparisonsAgree row a b l r := by
  have hgreater : Scalar.compared Ordering.isGT r l = Scalar.compared Ordering.isLT l r := by
    rw [← Scalar.compared_swap]
    simp only [Ordering.isGT_swap]
  have hgreaterEqual : Scalar.compared Ordering.isGE r l = Scalar.compared Ordering.isLE l r := by
    rw [← Scalar.compared_swap]
    simp only [Ordering.isGE_swap]
  constructor
  · refine ⟨l.looselyEqual r, eval_binary_of_ok .equal ha hb, ?_,
      eval_binary_of_ok .notEqual ha hb⟩
    rw [eval_binary_of_ok .equal hb ha, BinaryOp.apply, Scalar.looselyEqual_comm]
  · refine ⟨(l.order? r).any Ordering.isLT, eval_binary_of_ok .less ha hb, ?_⟩
    rw [eval_binary_of_ok .greater hb ha, BinaryOp.apply, hgreater, Scalar.compared]
  · refine ⟨(l.order? r).any Ordering.isLE, eval_binary_of_ok .lessEqual ha hb, ?_⟩
    rw [eval_binary_of_ok .greaterEqual hb ha, BinaryOp.apply, hgreaterEqual, Scalar.compared]
  · rw [holdsOn_equal_iff ha hb, holdsOn_less_iff ha hb, Scalar.equal_and_below_iff]

/-- A text that is read as a number, against a number. -/
theorem comparisons_agree_on_numeric_text :
    eval [("count", .str "9")] (.field "count") = .ok (.text "9") ∧
    eval [("count", .str "9")] (.literal (.number 10.0)) = .ok (.number 10.0) ∧
    ComparisonsAgree [("count", .str "9")] (.field "count") (.literal (.number 10.0))
      (.text "9") (.number 10.0) :=
  ⟨rfl, rfl, comparisons_agree rfl rfl⟩

/-- A tenth and two tenths, which as doubles make more than three tenths. -/
def sumOfTenths : Expr := .binary .add (.literal (.number 0.1)) (.literal (.number 0.2))

/-- Three tenths, and the sum of a tenth and two tenths, are equal and in order. -/
theorem equal_and_below_of_tenths :
    eval [("qty", .float 0.3)] (.field "qty") = .ok (.number 0.3) ∧
    eval [("qty", .float 0.3)] sumOfTenths = .ok (.number (0.1 + 0.2)) ∧
    HoldsOn [("qty", .float 0.3)] (.binary .equal (.field "qty") sumOfTenths) ∧
    HoldsOn [("qty", .float 0.3)] (.binary .less (.field "qty") sumOfTenths) :=
  ⟨rfl, rfl, rfl, rfl⟩

end Expr

end RecordGrid
