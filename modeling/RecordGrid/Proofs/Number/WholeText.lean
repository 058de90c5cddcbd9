import Mathlib.Data.Nat.Log
import Mathlib.Tactic.Ring
import RecordGrid.Json.Cell
import RecordGrid.Proofs.Number.Whole

/-!
# The text of whole numbers

Up to `2 ^ 53` the doubles next to a whole number are at most one away from it,
so a decimal without places after the point reads back as the number only when
it is the number.  The fewest digits that read back are then the digits of the
number without the zeros at its end, and every layout writes these zeros again.
-/

namespace RecordGrid.Number

open Float.Model (UnpackedFloat)
open Float.Model.UnpackedFloat (Sign)

variable {n k : Nat}

/-! ## Exact values -/

theorem ofBinary_neg (m k : Nat) : Ratio.ofBinary m (-k) = ⟨m, 2 ^ k⟩ := by
  cases k with
  | zero => simp [Ratio.ofBinary]
  | succ k =>
      have hdown : ¬(0 : Int) ≤ -((k + 1 : Nat) : Int) := by omega
      have hshift : (- -((k + 1 : Nat) : Int)).toNat = k + 1 := by omega
      rw [Ratio.ofBinary, if_neg hdown, hshift]
      rfl

theorem scale_natCast (r : Ratio) (j : Nat) : r.scale j = ⟨r.num, r.den * 10 ^ j⟩ := by
  rw [Ratio.scale, if_pos (Int.natCast_nonneg j), Int.toNat_natCast]
  rfl

theorem reaches_whole (n k j : Nat) :
    (Ratio.ofBinary (n * 2 ^ k) (-k)).reaches j = decide (10 ^ j ≤ n) := by
  have hunit : 0 < 2 ^ k := Nat.two_pow_pos k
  simp only [Ratio.reaches, ofBinary_neg, scale_natCast, decide_eq_decide]
  rw [Nat.mul_comm n, Nat.mul_le_mul_left_iff hunit]

/-- The binary length gives the decimal one up to one digit. -/
theorem guess_bounds :
    ∀ b < 53, 10 ^ (b * 30103 / 100000 - 1) ≤ 2 ^ b ∧
      2 ^ (b + 1) ≤ 10 ^ (b * 30103 / 100000 + 2) := by
  decide

theorem leadingExponent_whole (hpos : 0 < n) (hn : n < 2 ^ 53) (k : Nat) :
    leadingExponent (n * 2 ^ k) (-k) = Nat.log 10 n := by
  have hne : n ≠ 0 := Nat.ne_of_gt hpos
  have hlow : 2 ^ n.log2 ≤ n := Nat.log2_self_le hne
  have hhigh : n < 2 ^ (n.log2 + 1) := Nat.lt_log2_self
  obtain ⟨hbelow, habove⟩ := guess_bounds n.log2 ((Nat.log2_lt hne).2 hn)
  have hguess : ((((n * 2 ^ k).log2 : Int) + -k) * 30103).fdiv 100000 =
      (n.log2 * 30103 / 100000 : Nat) := by
    rw [log2_mul_two_pow hpos, Int.fdiv_eq_ediv_of_nonneg _ (by decide)]
    omega
  simp only [leadingExponent, hguess]
  generalize n.log2 * 30103 / 100000 = guess at hbelow habove
  have hnext : (guess : Int) + 1 = (guess + 1 : Nat) := by omega
  rw [hnext, reaches_whole, reaches_whole]
  split_ifs with hbefore hafter
  · have hfirst : n < 10 ^ guess := by simpa using hbefore
    obtain ⟨guess, rfl⟩ : ∃ g, guess = g + 1 := by
      cases guess with
      | zero => omega
      | succ g => exact ⟨g, rfl⟩
    rw [Nat.log_eq_of_pow_le_of_lt_pow (Nat.le_trans hbelow hlow) hfirst]
    omega
  · have hreached : 10 ^ (guess + 1) ≤ n := by simpa using hafter
    rw [Nat.log_eq_of_pow_le_of_lt_pow hreached (Nat.lt_of_lt_of_le hhigh habove)]
  · have hreached : 10 ^ guess ≤ n := by simpa using hbefore
    have hfirst : n < 10 ^ (guess + 1) := by simpa using hafter
    rw [Nat.log_eq_of_pow_le_of_lt_pow hreached hfirst]

/-- In quarters of its last digit, what reads back as a positive number is less
than one such digit away from it. -/
theorem neighbourhood_bounds {m : Nat} (hm : 0 < m) (e : Int) :
    (neighbourhood m e).low < 4 * m ∧ 4 * m ≤ (neighbourhood m e).low + 2 ∧
      (neighbourhood m e).high = 4 * m + 2 := by
  refine ⟨?_, ?_, rfl⟩ <;> dsimp only [neighbourhood] <;> split <;> omega

/-- A number without places reads back as a whole number only when it is the
number. -/
theorem readsBack_whole (hpos : 0 < n) (k c j : Nat) :
    readsBack (n * 2 ^ k) (-k) c j = decide (c * 10 ^ j = n) := by
  have hunit : 0 < 2 ^ k := Nat.two_pow_pos k
  have hquarter : -(k : Int) - 2 = -((k + 2 : Nat) : Int) := by omega
  have hvalue : c * (2 ^ (k + 2) * 10 ^ j) = 4 * (c * 10 ^ j * 2 ^ k) := by ring
  obtain ⟨hlow, hnear, hhigh⟩ := neighbourhood_bounds (Nat.mul_pos hpos hunit) (-k)
  simp only [readsBack, hquarter, ofBinary_neg, scale_natCast, hvalue, Nat.mul_one]
  generalize neighbourhood (n * 2 ^ k) (-k) = around at hlow hnear hhigh
  generalize c * 10 ^ j = v
  have hsteps {a b : Nat} (hab : a < b) : a * 2 ^ k < b * 2 ^ k :=
    Nat.mul_lt_mul_of_pos_right hab hunit
  rcases Nat.lt_trichotomy v n with hless | rfl | hmore
  · have hgap := hsteps hless
    have hne : v ≠ n := Nat.ne_of_lt hless
    simp only [hne, decide_false]
    split_ifs <;> simp <;> omega
  · simp only [decide_true]
    split_ifs <;> simp <;> omega
  · have hgap := hsteps hmore
    have hne : v ≠ n := Nat.ne_of_gt hmore
    simp only [hne, decide_false]
    split_ifs <;> simp <;> omega

/-! ## The fewest digits -/

/-- With at most as many digits as the number has, only the number itself reads
back, so the digits left out have to be zeros. -/
theorem withDigits_whole
    (hpos : 0 < n) (hn : n < 2 ^ 53) (tieUp : Bool) (k : Nat) {count j : Nat}
    (hcount : count + j = Nat.log 10 n + 1) :
    withDigits tieUp (n * 2 ^ k) (-k) count =
      if 10 ^ j ∣ n then some ⟨n / 10 ^ j, j⟩ else none := by
  have hunit : 0 < 2 ^ k := Nat.two_pow_pos k
  have hten : 0 < 10 ^ j := Nat.pow_pos (by decide)
  have hplaces : (Nat.log 10 n : Int) - count + 1 = j := by omega
  have hquotient : n * 2 ^ k / (2 ^ k * 10 ^ j) = n / 10 ^ j := by
    rw [Nat.mul_comm n, Nat.mul_div_mul_left _ _ hunit]
  have hup : (n / 10 ^ j + 1) * 10 ^ j ≠ n :=
    Nat.ne_of_gt (Nat.lt_mul_of_div_lt (Nat.lt_succ_self _) hten)
  simp only [withDigits, leadingExponent_whole hpos hn, hplaces, ofBinary_neg, scale_natCast,
    hquotient, readsBack_whole hpos, hup, decide_false]
  by_cases hdvd : 10 ^ j ∣ n
  · simp [hdvd, Nat.div_mul_cancel hdvd]
  · have hdown : n / 10 ^ j * 10 ^ j ≠ n := fun h => hdvd ⟨_, by rw [Nat.mul_comm, h]⟩
    simp [hdvd, hdown]

theorem log_lt_seventeen (hn : n < 2 ^ 53) : Nat.log 10 n < 17 :=
  Nat.log_lt_of_lt_pow' (by decide) (Nat.lt_trans hn (by decide))

/-- The fewest digits of a whole number leave out nothing but zeros at its end. -/
theorem shortest_whole (hpos : 0 < n) (hn : n < 2 ^ 53) (tieUp : Bool) (k : Nat) :
    ∃ c j : Nat, shortest tieUp (n * 2 ^ k) (-k) = ⟨c, j⟩ ∧ c * 10 ^ j = n := by
  obtain ⟨rest, hrest⟩ := Nat.exists_eq_add_of_lt (log_lt_seventeen hn)
  have hrange : List.range 17 =
      List.range (Nat.log 10 n + 1) ++ (List.range rest).map (Nat.log 10 n + 1 + ·) := by
    rw [← List.range_add, hrest, Nat.add_right_comm]
  have hall : withDigits tieUp (n * 2 ^ k) (-k) (Nat.log 10 n + 1) = some ⟨n, 0⟩ := by
    rw [withDigits_whole hpos hn tieUp k (j := 0) rfl]
    simp
  have hsome : ((List.range (Nat.log 10 n + 1)).findSome? fun i =>
      withDigits tieUp (n * 2 ^ k) (-k) (i + 1)).isSome := by
    rw [List.findSome?_isSome_iff]
    exact ⟨Nat.log 10 n, List.mem_range.2 (Nat.lt_succ_self _), by rw [hall]; rfl⟩
  obtain ⟨d, hfirst⟩ := Option.isSome_iff_exists.1 hsome
  obtain ⟨i, hi, hd⟩ := List.exists_of_findSome?_eq_some hfirst
  have hcount : i + 1 + (Nat.log 10 n - i) = Nat.log 10 n + 1 := by
    have hlt := List.mem_range.1 hi
    omega
  rw [withDigits_whole hpos hn tieUp k hcount] at hd
  split_ifs at hd with hdvd
  refine ⟨n / 10 ^ (Nat.log 10 n - i), Nat.log 10 n - i, ?_, Nat.div_mul_cancel hdvd⟩
  rw [shortest, hrange, List.findSome?_append, hfirst, Option.some_or, Option.getD_some]
  exact (Option.some.inj hd).symm

/-- A positive whole number is a double whose fewest digits leave out nothing but
zeros at its end. -/
theorem exists_unpack_ofNat (hpos : 0 < n) (hn : n ≤ 2 ^ 53) (tieUp : Bool) :
    ∃ m e, ∃ hm : IsMantissa m, -1074 ≤ e ∧ e < 972 ∧
      (Float.ofNat n).toModel.unpack = .finite .positive m e hm.pos ∧
      ∃ c j : Nat, shortest tieUp m e = ⟨c, j⟩ ∧ c * 10 ^ j = n := by
  rcases Nat.eq_or_lt_of_le hn with rfl | hn
  · have hfewest : shortest tieUp (2 ^ 52) 1 = ⟨2 ^ 53, (0 : Nat)⟩ := by
      cases tieUp <;> rfl
    exact ⟨2 ^ 52, 1, ⟨by decide, by decide⟩, by decide, by decide, rfl, _, _, hfewest, rfl⟩
  · obtain ⟨k, hk, hm⟩ := exists_isMantissa hpos hn
    exact ⟨n * 2 ^ k, -k, hm, by omega, by omega, unpack_ofNat hpos hn hk hm,
      shortest_whole hpos hn tieUp k⟩

theorem unpack_neg
    {x : Float} {m : Nat} {e : Int} (hm : IsMantissa m) (hlow : -1074 ≤ e) (hhigh : e < 972)
    (hx : x.toModel.unpack = .finite .positive m e hm.pos) :
    (Float.neg x).toModel.unpack = .finite .negative m e hm.pos := by
  show (Float.Model.pack x.toModel.unpack.neg).unpack = _
  rw [hx]
  exact unpack_pack hm .negative hlow hhigh

/-! ## Layouts -/

theorem digits_mul_ten_pow {c : Nat} (hc : 0 < c) (j : Nat) :
    digits (c * 10 ^ j) = digits c ++ List.replicate j '0' := by
  induction j with
  | zero => rw [Nat.pow_zero, Nat.mul_one, List.replicate_zero, List.append_nil]
  | succ j ih =>
      have hshifted : 0 < c * 10 ^ j := Nat.mul_pos hc (Nat.pow_pos (by decide))
      calc digits (c * 10 ^ (j + 1))
          = digits (10 * (c * 10 ^ j) + 0) := by rw [Nat.pow_succ]; congr 1; ring
        _ = digits (c * 10 ^ j) ++ digits 0 :=
            (Nat.toDigits_append_toDigits (by decide) hshifted (by decide)).symm
        _ = digits c ++ List.replicate (j + 1) '0' := by
            rw [ih, List.append_assoc, List.replicate_succ']
            rfl

/-- What a layout writes behind a whole number. -/
def Layout.wholeEnd (layout : Layout) : List Char := if layout.pointZero then ['.', '0'] else []

/-- Whole numbers of up to sixteen digits are written without an exponent. -/
def Layout.WritesWhole (layout : Layout) : Prop :=
  ∀ lead : Int, 0 ≤ lead → lead < 16 → layout.positional lead = true

theorem writesWhole_plain : Layout.plain.WritesWhole := fun _ _ _ => rfl

theorem writesWhole_json : Layout.json.WritesWhole := by
  intro lead hlow hhigh
  have hbelow : -5 ≤ lead := by omega
  simp only [Layout.json, decide_eq_true hbelow, decide_eq_true hhigh, Bool.and_true]

variable {layout : Layout}

theorem Layout.write_whole
    (hlayout : layout.WritesWhole) {c j : Nat} (hc : 0 < c) (hsmall : c * 10 ^ j ≤ 2 ^ 53) :
    layout.write ⟨c, j⟩ = digits (c * 10 ^ j) ++ layout.wholeEnd := by
  have hlength : (digits (c * 10 ^ j)).length ≤ 16 :=
    (Nat.length_toDigits_le_iff (by decide) (by decide)).2 (Nat.lt_of_le_of_lt hsmall (by decide))
  have hsome : 0 < (digits c).length := Nat.length_toDigits_pos
  rw [digits_mul_ten_pow hc] at hlength ⊢
  rw [List.length_append, List.length_replicate] at hlength
  have hpositional : layout.positional ((j : Int) + (digits c).length - 1) = true :=
    hlayout _ (by omega) (by omega)
  simp only [write, hpositional, if_true, Int.natCast_nonneg, Int.toNat_natCast, wholeEnd]

theorem toString_int (n : Int) :
    toString n = String.ofList ((if n < 0 then ['-'] else []) ++ digits n.natAbs) := by
  rcases n with n | n
  · have hpositive : ¬Int.ofNat n < 0 := by simp
    rw [if_neg hpositive, List.nil_append]
    rfl
  · rw [if_pos (Int.negSucc_lt_zero n), String.ofList_append]
    rfl

/-- A whole number other than zero is a double whose sign and fewest digits are
its own. -/
theorem exists_unpack_ofInt {n : Int} (hne : n ≠ 0) (hn : n.natAbs ≤ 2 ^ 53) (tieUp : Bool) :
    ∃ s m e hm, (Float.ofInt n).toModel.unpack = .finite s m e hm ∧
      signText s = (if n < 0 then ['-'] else []) ∧
      ∃ c j : Nat, shortest tieUp m e = ⟨c, j⟩ ∧ c * 10 ^ j = n.natAbs := by
  rcases n with n | n
  · have hpos : 0 < n := Nat.pos_of_ne_zero fun hzero => hne (hzero ▸ rfl)
    have hpositive : ¬Int.ofNat n < 0 := by simp
    obtain ⟨m, e, hm, -, -, hunpack, hfewest⟩ := exists_unpack_ofNat hpos hn tieUp
    rw [if_neg hpositive]
    exact ⟨_, m, e, hm.pos, hunpack, rfl, hfewest⟩
  · obtain ⟨m, e, hm, hlow, hhigh, hunpack, hfewest⟩ :=
      exists_unpack_ofNat (Nat.succ_pos n) hn tieUp
    rw [if_pos (Int.negSucc_lt_zero n)]
    exact ⟨_, m, e, hm.pos, unpack_neg hm hlow hhigh hunpack, rfl, hfewest⟩

/-- Up to `2 ^ 53` a whole number is written with its exact digits. -/
theorem Layout.text_ofInt
    (hlayout : layout.WritesWhole) {n : Int} (hn : n.natAbs ≤ 2 ^ 53) :
    layout.text (Float.ofInt n) = toString n ++ String.ofList layout.wholeEnd := by
  by_cases hne : n = 0
  · have hpositional : layout.positional 0 = true := hlayout 0 (by decide) (by decide)
    have hzero : layout.write ⟨0, 0⟩ = ['0'] ++ layout.wholeEnd := if_pos hpositional
    subst hne
    exact (congrArg String.ofList hzero).trans String.ofList_append
  · obtain ⟨s, m, e, hm, hunpack, hsign, c, j, hfewest, hvalue⟩ :=
      exists_unpack_ofInt hne hn layout.tieUp
    have hc : 0 < c := Nat.pos_of_mul_pos_right (hvalue ▸ Int.natAbs_pos.2 hne)
    rw [Layout.text, hunpack, toString_int, ← String.ofList_append]
    dsimp only
    rw [hfewest, Layout.write_whole hlayout hc (hvalue ▸ hn), hvalue, hsign, List.append_assoc]

theorem isFinite_ofInt {n : Int} (hn : n.natAbs ≤ 2 ^ 53) : isFinite (Float.ofInt n) = true := by
  by_cases hne : n = 0
  · subst hne
    rfl
  · obtain ⟨s, m, e, hm, hunpack, -⟩ := exists_unpack_ofInt hne hn true
    rw [isFinite, hunpack]

/-- Up to `2 ^ 53` a whole number is shown with its exact digits. -/
theorem plainText_ofInt {n : Int} (hn : n.natAbs ≤ 2 ^ 53) :
    plainText (Float.ofInt n) = toString n := by
  rw [plainText, if_pos (isFinite_ofInt hn), Layout.text_ofInt writesWhole_plain hn]
  exact String.append_empty

/-! ## Numbers with a point -/

/-- Whether a double has a point among its fewest digits, the same digits in
every layout, and no exponent in JSON text. -/
def hasPoint (x : Float) : Bool :=
  match x.toModel.unpack with
  | .finite _ m e _ =>
      let d := shortest Layout.plain.tieUp m e
      decide (shortest Layout.json.tieUp m e = d) && decide (d.exponent < 0) &&
        Layout.json.positional (d.exponent + (digits d.coefficient).length - 1)
  | _ => false

theorem exists_of_hasPoint {x : Float} (hx : hasPoint x = true) :
    ∃ s m e hm d, x.toModel.unpack = .finite s m e hm ∧
      shortest Layout.plain.tieUp m e = d ∧ shortest Layout.json.tieUp m e = d ∧
      d.exponent < 0 ∧ Layout.json.positional (d.exponent + (digits d.coefficient).length - 1) := by
  unfold hasPoint at hx
  cases hunpack : x.toModel.unpack with
  | finite s m e hm =>
      rw [hunpack] at hx
      obtain ⟨hdigits, hpositional⟩ := Bool.and_eq_true_iff.1 hx
      obtain ⟨hsame, hplaces⟩ := Bool.and_eq_true_iff.1 hdigits
      exact ⟨s, m, e, hm, _, rfl, rfl, of_decide_eq_true hsame, of_decide_eq_true hplaces,
        hpositional⟩
  | _ =>
      rw [hunpack] at hx
      cases hx

theorem text_json_of_hasPoint {x : Float} (hx : hasPoint x = true) :
    Layout.json.text x = Layout.plain.text x := by
  obtain ⟨s, m, e, hm, d, hunpack, hplain, hjson, hplaces, hpositional⟩ := exists_of_hasPoint hx
  have hpoint : ¬0 ≤ d.exponent := Int.not_le.2 hplaces
  have hwrite : Layout.json.write d = Layout.plain.write d := by
    have hanywhere (lead : Int) : Layout.plain.positional lead = true := rfl
    simp only [Layout.write, hpositional, hanywhere, if_true, if_neg hpoint]
  rw [Layout.text, Layout.text, hunpack]
  dsimp only
  rw [hplain, hjson, hwrite]

theorem isFinite_of_hasPoint {x : Float} (hx : hasPoint x = true) : isFinite x = true := by
  obtain ⟨s, m, e, hm, d, hunpack, -⟩ := exists_of_hasPoint hx
  rw [isFinite, hunpack]

end RecordGrid.Number
