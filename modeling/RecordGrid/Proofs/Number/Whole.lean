import Mathlib.Algebra.Group.Nat.Defs
import RecordGrid.Number.Decimal
import RecordGrid.Number.Reading

/-!
# Whole numbers as doubles

A double has 53 binary digits, so every whole number up to `2 ^ 53` is one.
Reading such a number and taking its whole part gives the number back: shifting
its digits to their place and multiplying by one leave them as they are.
-/

namespace RecordGrid.Number

open Float.Model (UnpackedFloat Format totalExponent)
open Float.Model.UnpackedFloat
  (ExtendedMantissa Sign shiftToTargetExponent shiftToExponent roundWithAccuracy packComponents)

variable {m n : Nat} {e : Int}

/-- The digits of a double in full length. -/
structure IsMantissa (m : Nat) : Prop where
  low : 2 ^ 52 ≤ m
  high : m < 2 ^ 53

theorem IsMantissa.pos (hm : IsMantissa m) : 0 < m := by
  have hlow := hm.low
  omega

theorem IsMantissa.log2_eq (hm : IsMantissa m) : m.log2 = 52 := by
  have hne : m ≠ 0 := Nat.ne_of_gt hm.pos
  have hlow : 52 ≤ m.log2 := (Nat.le_log2 hne).2 hm.low
  have hhigh : m.log2 < 53 := (Nat.log2_lt hne).2 hm.high
  omega

theorem log2_mul_two_pow (hm : 0 < m) (j : Nat) : (m * 2 ^ j).log2 = m.log2 + j := by
  induction j with
  | zero => rw [Nat.pow_zero, Nat.mul_one, Nat.add_zero]
  | succ j ih =>
      have hne : m * 2 ^ j ≠ 0 := Nat.ne_of_gt (Nat.mul_pos hm (Nat.two_pow_pos j))
      rw [Nat.pow_succ, ← Nat.mul_assoc, Nat.mul_comm _ 2, Nat.log2_two_mul hne, ih, Nat.add_assoc]

/-! ## Rounding what needs none -/

theorem shiftRight_multiple (m j : Nat) :
    (⟨m * 2 ^ j, false, false⟩ : ExtendedMantissa) >>> j = ⟨m, false, false⟩ := by
  induction j generalizing m with
  | zero => rw [Nat.pow_zero, Nat.mul_one]; rfl
  | succ j ih =>
      have hnext : (⟨m * 2 ^ (j + 1), false, false⟩ : ExtendedMantissa) >>> (j + 1) =
          ((⟨m * 2 * 2 ^ j, false, false⟩ : ExtendedMantissa) >>> j).shiftRightOne := by
        rw [Nat.pow_succ, Nat.mul_assoc, Nat.mul_comm 2]
        rfl
      rw [hnext, ih]
      simp [ExtendedMantissa.shiftRightOne]

theorem targetExponent_eq (hm : IsMantissa m) (he : -1074 ≤ e) (j : Nat) :
    Format.binary64.targetExponent (totalExponent (m * 2 ^ j) (e - j)) = e := by
  have hminimum : Format.binary64.minExponent = -1074 := by decide
  have hdigits : Format.binary64.mantissaBits = 53 := rfl
  simp only [Format.targetExponent, totalExponent, hminimum, hdigits,
    log2_mul_two_pow hm.pos, hm.log2_eq]
  omega

theorem shiftToTargetExponent_multiple (hm : IsMantissa m) (he : -1074 ≤ e) (j : Nat) :
    shiftToTargetExponent .binary64 (m * 2 ^ j) (e - j) .exact = (⟨m, false, false⟩, e) := by
  have hshift : (e - (e - (j : Int))).toNat = j := by omega
  have hback : e - (j : Int) + (j : Int) = e := by omega
  simp only [shiftToTargetExponent, shiftToExponent, targetExponent_eq hm he j, hshift,
    ExtendedMantissa.ofMantissaAndAccuracy, shiftRight_multiple, hback]

/-- A multiple of a power of two with few enough digits is rounded to itself. -/
theorem roundWithAccuracy_multiple (hm : IsMantissa m) (he : -1074 ≤ e) (s : Sign) (j : Nat) :
    roundWithAccuracy .binary64 s (m * 2 ^ j) (e - j) .exact = .finite s m e hm.pos := by
  have hagain : shiftToTargetExponent .binary64 m e .exact = (⟨m, false, false⟩, e) := by
    have hnone := shiftToTargetExponent_multiple hm he 0
    simpa using hnone
  have hne : m ≠ 0 := Nat.ne_of_gt hm.pos
  have hrounded : (⟨m, false, false⟩ : ExtendedMantissa).roundedMantissa = m := rfl
  unfold roundWithAccuracy
  rw [shiftToTargetExponent_multiple hm he j]
  dsimp only
  rw [hrounded, hagain]
  dsimp only
  rw [dif_neg hne]

/-! ## The bits of a double -/

theorem unpackSign_packComponents
    {f : Format} (s : Sign) (exponent : BitVec f.exponentBits)
    (fraction : BitVec f.mantissaBitsWithoutImplicit) :
    UnpackedFloat.unpackSign (packComponents f s exponent fraction) = s.toBitVec := by
  apply BitVec.eq_of_getLsbD_eq
  intro i hi
  have hfirst : i = 0 := by omega
  subst hfirst
  unfold UnpackedFloat.unpackSign packComponents
  simp [BitVec.getLsbD_append, BitVec.getElem_append]

/-- The first digit is not stored. -/
theorem append_fraction (hm : IsMantissa m) : (1#1 ++ BitVec.ofNat 52 m).toNat = m := by
  have hlow := hm.low
  have hhigh := hm.high
  rw [BitVec.toNat_append, ← Nat.shiftLeft_add_eq_or_of_lt (BitVec.ofNat 52 m).isLt,
    BitVec.toNat_ofNat]
  simp only [BitVec.toNat_ofNat, Nat.shiftLeft_eq]
  omega

theorem unpack_packComponents
    (hm : IsMantissa m) (s : Sign) {biased : Nat} (hlow : 0 < biased) (hhigh : biased < 2047) :
    UnpackedFloat.unpack .binary64
        (packComponents .binary64 s (BitVec.ofNat 11 biased) (BitVec.ofNat 52 m)) =
      .finite s m (biased - 1075) hm.pos := by
  have hvalue : (BitVec.ofNat 11 biased).toNat = biased := by
    rw [BitVec.toNat_ofNat]
    omega
  have hnotzero : BitVec.ofNat 11 biased ≠ 0#11 := by
    intro hzero
    have hzero := congrArg BitVec.toNat hzero
    rw [hvalue, BitVec.toNat_zero] at hzero
    omega
  have hnotones : BitVec.ofNat 11 biased ≠ -1#11 := by
    intro hones
    have hones := congrArg BitVec.toNat hones
    have hmost : (-1#11).toNat = 2047 := by decide
    rw [hvalue, hmost] at hones
    omega
  have hsign : Sign.ofBitVec s.toBitVec = s := by cases s <;> rfl
  have hbias : (Format.binary64.exponentBias : Int) + (52 : Nat) = 1075 := by decide
  unfold UnpackedFloat.unpack
  dsimp only
  rw [UnpackedFloat.unpackExponent_packComponents, if_neg hnotones, if_neg hnotzero,
    UnpackedFloat.finite.injEq]
  refine ⟨?_, ?_, ?_⟩
  · rw [unpackSign_packComponents, hsign]
  · rw [UnpackedFloat.unpackMantissa_packComponents, append_fraction hm]
  · rw [hvalue, hbias]

theorem pack_eq (hm : IsMantissa m) (s : Sign) {biased : Nat} (hhigh : biased < 2047) :
    UnpackedFloat.pack .binary64 (.finite s m (biased - 1075) hm.pos) =
      packComponents .binary64 s (BitVec.ofNat 11 biased) (BitVec.ofNat 52 m) := by
  have hexponent : ((biased : Int) - 1075 + (Format.binary64.exponentBias : Int) +
      (Format.binary64.mantissaBitsWithoutImplicit : Int)).toNat = biased := by
    have hbias : Format.binary64.exponentBias = 1023 := by decide
    have hfraction : Format.binary64.mantissaBitsWithoutImplicit = 52 := rfl
    rw [hbias, hfraction]
    omega
  have hfits : ¬2 ^ Format.binary64.exponentBits ≤ biased + 1 := by
    have hbound : 2 ^ Format.binary64.exponentBits = 2048 := by decide
    omega
  have hdigits : m.log2 + 1 = Format.binary64.mantissaBits := by
    rw [hm.log2_eq]
    rfl
  unfold UnpackedFloat.pack
  dsimp only
  rw [hexponent, if_neg hfits, if_pos hdigits]

theorem unpack_pack (hm : IsMantissa m) (s : Sign) (hlow : -1074 ≤ e) (hhigh : e < 972) :
    (Float.Model.pack (.finite s m e hm.pos)).unpack = .finite s m e hm.pos := by
  obtain ⟨biased, rfl⟩ : ∃ biased : Nat, e = biased - 1075 := ⟨(e + 1075).toNat, by omega⟩
  show UnpackedFloat.unpack .binary64 (UnpackedFloat.pack .binary64 _) = _
  rw [pack_eq hm s (by omega), unpack_packComponents hm s (by omega) (by omega)]

/-! ## Whole numbers -/

/-- The digits of a whole number, shifted to full length. -/
theorem exists_isMantissa (hpos : 0 < n) (hn : n < 2 ^ 53) :
    ∃ k ≤ 52, IsMantissa (n * 2 ^ k) := by
  have hne : n ≠ 0 := Nat.ne_of_gt hpos
  have hlog : n.log2 < 53 := (Nat.log2_lt hne).2 hn
  have hlength : (n * 2 ^ (52 - n.log2)).log2 = 52 := by
    rw [log2_mul_two_pow hpos]
    omega
  have hproduct : n * 2 ^ (52 - n.log2) ≠ 0 :=
    Nat.ne_of_gt (Nat.mul_pos hpos (Nat.two_pow_pos _))
  refine ⟨52 - n.log2, by omega, ?_, ?_⟩
  · exact (Nat.le_log2 hproduct).1 (Nat.le_of_eq hlength.symm)
  · exact (Nat.log2_lt hproduct).1 (by omega)

variable {k : Nat}

theorem round_eq (hpos : 0 < n) (hk : k ≤ 52) (hm : IsMantissa (n * 2 ^ k)) (s : Sign) :
    UnpackedFloat.round .binary64 s n 0 = .finite s (n * 2 ^ k) (-k) hm.pos := by
  have hlog : n.log2 + k = 52 := by rw [← log2_mul_two_pow hpos, hm.log2_eq]
  have htarget : Format.binary64.targetExponent (totalExponent n 0) = -k := by
    have hminimum : Format.binary64.minExponent = -1074 := by decide
    have hdigits : Format.binary64.mantissaBits = 53 := rfl
    simp only [Format.targetExponent, totalExponent, hminimum, hdigits]
    omega
  have hshift : ((0 : Int) - -(k : Int)).toNat = k := by omega
  have hexponent : (0 : Int) - (k : Int) = -k := by omega
  have hexact := roundWithAccuracy_multiple hm (e := -k) (by omega) s 0
  rw [Nat.pow_zero, Nat.mul_one, Int.natCast_zero, Int.sub_zero] at hexact
  have hshifted : UnpackedFloat.decreaseExponent n 0 (-k) = (n * 2 ^ k, -(k : Int)) := by
    rw [UnpackedFloat.decreaseExponent, hshift, hexponent, Nat.shiftLeft_eq]
  unfold UnpackedFloat.round
  dsimp only
  rw [htarget, hshifted]
  exact hexact

theorem unpack_toFloat (hpos : 0 < n) (hn : n < 2 ^ 53) (hk : k ≤ 52)
    (hm : IsMantissa (n * 2 ^ k)) :
    n.toUInt64.toFloat.toModel.unpack = .finite .positive (n * 2 ^ k) (-k) hm.pos := by
  have hword : n.toUInt64.toNat = n :=
    UInt64.toNat_ofNat_of_lt' (Nat.lt_trans hn (by decide))
  have hsign : compare (n : Int) 0 = .gt := by
    rw [Int.compare_eq_gt]
    omega
  have hrounded : UnpackedFloat.ofUInt64 .binary64 n.toUInt64 =
      .finite .positive (n * 2 ^ k) (-k) hm.pos := by
    unfold UnpackedFloat.ofUInt64 UnpackedFloat.ofNat UnpackedFloat.ofInt UnpackedFloat.normalize
    rw [hword, hsign]
    exact round_eq hpos hk hm .positive
  show (Float.Model.pack (UnpackedFloat.ofUInt64 .binary64 n.toUInt64)).unpack = _
  rw [hrounded]
  exact unpack_pack hm _ (by omega) (by omega)

/-- The double one. -/
theorem unpack_one :
    (Float.ofBits 0x3FF0000000000000).toModel.unpack =
      .finite .positive 0x10000000000000 (-52) (by decide) := by
  rfl

theorem unpack_ofNat (hpos : 0 < n) (hn : n < 2 ^ 53) (hk : k ≤ 52)
    (hm : IsMantissa (n * 2 ^ k)) :
    (Float.ofNat n).toModel.unpack = .finite .positive (n * 2 ^ k) (-k) hm.pos := by
  have hread : Float.ofNat n = n.toUInt64.toFloat * Float.ofBits 0x3FF0000000000000 := by
    have hsmall : n < 2 ^ 53 ∧ 0 ≤ 22 := ⟨hn, Nat.zero_le _⟩
    show Float.ofScientific n false 0 = _
    rw [Float.ofScientific, dif_pos hsmall]
    rfl
  have hproduct : UnpackedFloat.mul .binary64 (.finite .positive (n * 2 ^ k) (-k) hm.pos)
      (.finite .positive 0x10000000000000 (-52) (by decide)) =
        .finite .positive (n * 2 ^ k) (-k) hm.pos :=
    roundWithAccuracy_multiple hm (by omega) .positive 52
  rw [hread]
  show (Float.Model.pack (UnpackedFloat.mul .binary64 _ _)).unpack = _
  rw [unpack_toFloat hpos hn hk hm, unpack_one, hproduct]
  exact unpack_pack hm _ (by omega) (by omega)

/-- A whole number that is read as a double has itself as its whole part. -/
theorem toInt_ofNat (hn : n ≤ 2 ^ 53) : toInt (Float.ofNat n) = n := by
  rcases Nat.eq_zero_or_pos n with rfl | hpos
  · rfl
  rcases Nat.eq_or_lt_of_le hn with rfl | hn
  · rfl
  obtain ⟨k, hk, hm⟩ := exists_isMantissa hpos hn
  rw [toInt, unpack_ofNat hpos hn hk hm]
  simp only [Sign.apply]
  cases k with
  | zero => simp
  | succ k =>
      have hdown : ¬(0 : Int) ≤ -((k + 1 : Nat) : Int) := by omega
      have hshift : (- -((k + 1 : Nat) : Int)).toNat = k + 1 := by omega
      have hpower : Nat.pow 2 (k + 1) = 2 ^ (k + 1) := rfl
      rw [if_neg hdown, hshift, hpower, Nat.mul_div_cancel _ (Nat.two_pow_pos _)]

/-! ## Reading digits -/

/-- What holds of the ten digits holds of every digit. -/
@[elab_as_elim]
theorem of_isDigit
    {P : Char → Prop} {c : Char} (hc : c.isDigit = true)
    (hall : ∀ n < 10, P (Char.ofNat (48 + n))) :
    P c := by
  have hrange : 48 ≤ c.toNat ∧ c.toNat ≤ 57 := by
    simpa [Char.isDigit, UInt32.le_iff_toNat_le] using hc
  have hchar : Char.ofNat (48 + (c.toNat - 48)) = c := by
    rw [Nat.add_sub_cancel' hrange.1, Char.ofNat_toNat]
  rw [← hchar]
  exact hall _ (by omega)

theorem isDigit_of_mem_digits {c : Char} (hc : c ∈ digits n) : c.isDigit = true :=
  Nat.isDigit_of_mem_toDigits (by decide) (by decide) hc

theorem exists_digits_eq_cons (n : Nat) : ∃ c cs, digits n = c :: cs :=
  List.exists_cons_of_ne_nil Nat.toDigits_ne_nil

theorem digitsValue_digits (n : Nat) : digitsValue (digits n) = n :=
  Nat.ofDigitChars_ten_toDigits

/-- A number is read from its decimal digits. -/
theorem read?_digits (n : Nat) : read? (String.ofList (digits n)) = some (Float.ofNat n) := by
  obtain ⟨c, cs, hdigits⟩ := exists_digits_eq_cons n
  have hall : ∀ d ∈ digits n, d.isDigit = true := fun d hd => isDigit_of_mem_digits hd
  have hfirst : c.isDigit = true := hall c (hdigits ▸ List.mem_cons_self ..)
  obtain ⟨hplus, hminus, hi, hn⟩ : c ≠ '+' ∧ c ≠ '-' ∧ c.toLower ≠ 'i' ∧ c.toLower ≠ 'n' :=
    of_isDigit hfirst (by decide)
  have hsplit : splitSign (digits n) = (false, digits n) := by
    rw [hdigits]
    unfold splitSign
    split
    · exact absurd (List.cons.inj ‹_›).1 hplus
    · exact absurd (List.cons.inj ‹_›).1 hminus
    · rfl
  have hword (d : Char) (ds : List Char) (hd : c.toLower ≠ d) :
      String.ofList ((digits n).map Char.toLower) ≠ String.ofList (d :: ds) := by
    intro hsame
    rw [String.ofList_inj, hdigits, List.map_cons] at hsame
    exact hd (List.cons.inj hsame).1
  have hwhole : (digits n).takeWhile Char.isDigit = digits n := by
    have happend : (digits n ++ []).takeWhile Char.isDigit = digits n ++ [] :=
      List.takeWhile_append_of_pos hall
    rwa [List.append_nil] at happend
  have hrest : (digits n).dropWhile Char.isDigit = [] := by
    have happend : (digits n ++ []).dropWhile Char.isDigit = [] :=
      List.dropWhile_append_of_pos hall
    rwa [List.append_nil] at happend
  have hthere : (digits n).isEmpty = false := by rw [hdigits, List.isEmpty_cons]
  have hunsigned : readUnsigned (digits n) = some (Float.ofNat n) := by
    simp only [readUnsigned, hwhole, hrest, hthere, Bool.false_and, Bool.false_eq_true, if_false,
      readExponent, Option.map_some, List.append_nil, digitsValue_digits]
    rfl
  have hinf := hword 'i' ['n', 'f'] hi
  have hinfinity := hword 'i' ['n', 'f', 'i', 'n', 'i', 't', 'y'] hi
  have hnan := hword 'n' ['a', 'n'] hn
  simp only [read?, String.toList_ofList, hsplit]
  rw [if_neg (not_or.2 ⟨hinf, hinfinity⟩), if_neg hnan, hunsigned]
  rfl

end RecordGrid.Number
