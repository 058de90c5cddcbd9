import Mathlib.Algebra.Group.Nat.Defs

/-!
# Order and distance of doubles

Swapping two doubles swaps how they compare and leaves their distance as it is.
Rounding and packing treat a number and its opposite alike, so the sign of a
difference is all that depends on which of the two comes first.
-/

namespace RecordGrid

open Float.Model (UnpackedFloat Format)
open Float.Model.UnpackedFloat (Sign Accuracy packComponents)

/-! ## Order -/

theorem UnpackedFloat.compare_swap (x y : UnpackedFloat) :
    (x.compare y).map Ordering.swap = y.compare x := by
  have hsign (s t : Sign) : (compare s t).swap = compare t s := by
    cases s <;> cases t <;> rfl
  have hdigits (m n : Nat) (d e : Int) :
      ((compare d e).then (compare m n)).swap = (compare e d).then (compare n m) := by
    rw [Ordering.swap_then, ← Std.OrientedCmp.eq_swap, ← Std.OrientedCmp.eq_swap]
  cases x with
  | notANumber => cases y <;> rfl
  | infinity s =>
      cases y with
      | infinity t => exact congrArg some (hsign s t)
      | notANumber => cases s <;> rfl
      | zero t => cases s <;> rfl
      | finite t n e hn => cases s <;> rfl
  | zero s =>
      cases y with
      | infinity t => cases t <;> rfl
      | notANumber => rfl
      | zero t => rfl
      | finite t n e hn => cases t <;> rfl
  | finite s m d hm =>
      cases y with
      | infinity t => cases s <;> cases t <;> rfl
      | notANumber => cases s <;> rfl
      | zero t => cases s <;> rfl
      | finite t n e hn =>
          cases s with
          | negative =>
              cases t with
              | negative => exact congrArg (fun o : Ordering => some o.swap) (hdigits m n d e)
              | positive => rfl
          | positive =>
              cases t with
              | negative => rfl
              | positive => exact congrArg some (hdigits m n d e)

namespace Float

theorem lt_iff {x y : Float} : x < y ↔ x.toModel.unpack.compare y.toModel.unpack = some .lt := by
  have hmodel : x < y ↔ (x.toModel.unpack.compare y.toModel.unpack == some .lt) = true :=
    decide_eq_true_iff
  rw [hmodel, beq_iff_eq]

theorem beq_iff {x y : Float} :
    (x == y) = true ↔ x.toModel.unpack.compare y.toModel.unpack = some .eq := by
  have hmodel :
      (x == y) = true ↔ (x.toModel.unpack.compare y.toModel.unpack == some .eq) = true := Iff.rfl
  rw [hmodel, beq_iff_eq]

theorem gt_iff {x y : Float} : y < x ↔ x.toModel.unpack.compare y.toModel.unpack = some .gt := by
  rw [lt_iff, ← UnpackedFloat.compare_swap, Option.map_eq_some_iff]
  constructor
  · rintro ⟨o, ho, hswap⟩
    rw [ho, Ordering.swap_eq_lt.1 hswap]
  · exact fun hgt => ⟨.gt, hgt, rfl⟩

end Float

/-! ## Distance -/

namespace UnpackedFloat

variable {f : Format} {m : Nat} {e : Int} {s t : Sign}

/-- The number with given digits, zero where there are none. -/
def ofDigits (s : Sign) (m : Nat) (e : Int) : UnpackedFloat :=
  if h : m = 0 then .zero s else .finite s m e (Nat.pos_of_ne_zero h)

theorem abs_ofDigits (s t : Sign) (m : Nat) (e : Int) :
    (ofDigits s m e).abs = (ofDigits t m e).abs := by
  unfold ofDigits
  by_cases hzero : m = 0
  · rw [dif_pos hzero, dif_pos hzero]
    rfl
  · rw [dif_neg hzero, dif_neg hzero]
    rfl

theorem abs_roundWithAccuracy (f : Format) (s t : Sign) (m : Nat) (e : Int) (a : Accuracy) :
    (UnpackedFloat.roundWithAccuracy f s m e a).abs =
      (UnpackedFloat.roundWithAccuracy f t m e a).abs :=
  abs_ofDigits s t _ _

theorem abs_normalize_neg (f : Format) (n e : Int) (s : Sign) :
    (UnpackedFloat.normalize f (-n) e s).abs = (UnpackedFloat.normalize f n e s).abs := by
  rcases Int.lt_trichotomy n 0 with hn | rfl | hn
  · have hleft : compare (-n) 0 = .gt := Int.compare_eq_gt.2 (by omega)
    have hright : compare n 0 = .lt := Int.compare_eq_lt.2 hn
    unfold UnpackedFloat.normalize
    rw [hleft, hright]
    exact abs_roundWithAccuracy ..
  · rfl
  · have hleft : compare (-n) 0 = .lt := Int.compare_eq_lt.2 (by omega)
    have hright : compare n 0 = .gt := Int.compare_eq_gt.2 hn
    unfold UnpackedFloat.normalize
    rw [hleft, hright, Int.neg_neg]
    exact abs_roundWithAccuracy ..

theorem abs_sub_comm (f : Format) (x y : UnpackedFloat) :
    (UnpackedFloat.sub f x y).abs = (UnpackedFloat.sub f y x).abs := by
  cases x with
  | notANumber => cases y <;> rfl
  | infinity s =>
      cases y with
      | infinity t => cases s <;> cases t <;> rfl
      | notANumber => rfl
      | zero t => rfl
      | finite t n e hn => rfl
  | zero s =>
      cases y with
      | infinity t => rfl
      | notANumber => rfl
      | zero t => cases s <;> cases t <;> rfl
      | finite t n e hn => rfl
  | finite s m d hm =>
      cases y with
      | infinity t => rfl
      | notANumber => rfl
      | zero t => rfl
      | finite t n e hn =>
          unfold UnpackedFloat.sub
          dsimp only
          rw [Int.min_comm e d, ← abs_normalize_neg, Int.neg_sub]

theorem abs_finite {d : Int} {n : Nat} (hm : 0 < m) (hn : 0 < n) (hmantissa : m = n)
    (hexponent : d = e) :
    (UnpackedFloat.finite s m d hm).abs = (UnpackedFloat.finite t n e hn).abs := by
  subst hmantissa hexponent
  rfl

/-- The sign bit has no part in the absolute value of what is unpacked. -/
theorem abs_unpack_congr {b c : BitVec f.numBits}
    (hexponent : UnpackedFloat.unpackExponent b = UnpackedFloat.unpackExponent c)
    (hmantissa : UnpackedFloat.unpackMantissa b = UnpackedFloat.unpackMantissa c) :
    (UnpackedFloat.unpack f b).abs = (UnpackedFloat.unpack f c).abs := by
  unfold UnpackedFloat.unpack
  dsimp only
  by_cases hones : UnpackedFloat.unpackExponent c = -1#_
  · rw [if_pos hones, if_pos (hexponent.trans hones), hmantissa]
    split <;> rfl
  rw [if_neg hones, if_neg (hexponent ▸ hones)]
  by_cases hzeros : UnpackedFloat.unpackExponent c = 0#_
  · rw [if_pos hzeros, if_pos (hexponent.trans hzeros)]
    by_cases hnone : UnpackedFloat.unpackMantissa c = 0#_
    · rw [dif_pos hnone, dif_pos (hmantissa.trans hnone)]
      rfl
    · rw [dif_neg hnone, dif_neg (hmantissa ▸ hnone)]
      exact abs_finite _ _ (by rw [hmantissa]) (by rw [hexponent])
  · rw [if_neg hzeros, if_neg (hexponent ▸ hzeros)]
    exact abs_finite _ _ (by rw [hmantissa]) (by rw [hexponent])

theorem abs_unpack_packComponents (f : Format) (s t : Sign) (exponent : BitVec f.exponentBits)
    (mantissa : BitVec f.mantissaBitsWithoutImplicit) :
    (UnpackedFloat.unpack f (packComponents f s exponent mantissa)).abs =
      (UnpackedFloat.unpack f (packComponents f t exponent mantissa)).abs :=
  abs_unpack_congr
    (by rw [UnpackedFloat.unpackExponent_packComponents,
      UnpackedFloat.unpackExponent_packComponents])
    (by rw [UnpackedFloat.unpackMantissa_packComponents,
      UnpackedFloat.unpackMantissa_packComponents])

theorem abs_unpack_pack (f : Format) (x : UnpackedFloat) :
    (UnpackedFloat.unpack f (UnpackedFloat.pack f x)).abs =
      (UnpackedFloat.unpack f (UnpackedFloat.pack f x.abs)).abs := by
  cases x with
  | notANumber => rfl
  | infinity s => exact abs_unpack_packComponents ..
  | zero s => exact abs_unpack_packComponents ..
  | finite s m e hm =>
      -- Which of the three forms is packed depends on the digits alone.
      have habs : (UnpackedFloat.finite s m e hm).abs = .finite .positive m e hm := rfl
      rw [habs]
      unfold UnpackedFloat.pack
      dsimp only
      by_cases hlarge :
          2 ^ f.exponentBits ≤ (e + f.exponentBias + f.mantissaBitsWithoutImplicit).toNat + 1
      · rw [if_pos hlarge, if_pos hlarge]
        exact abs_unpack_packComponents ..
      rw [if_neg hlarge, if_neg hlarge]
      by_cases hfull : m.log2 + 1 = f.mantissaBits
      · rw [if_pos hfull, if_pos hfull]
        exact abs_unpack_packComponents ..
      · rw [if_neg hfull, if_neg hfull]
        exact abs_unpack_packComponents ..

end UnpackedFloat

theorem Float.abs_sub_comm (x y : Float) : (x - y).abs = (y - x).abs := by
  have hdistance (x y : Float) : (x - y).abs = .ofModel (Float.Model.pack
      (UnpackedFloat.unpack .binary64 (UnpackedFloat.pack .binary64
        (UnpackedFloat.sub .binary64 x.toModel.unpack y.toModel.unpack))).abs) := rfl
  rw [hdistance, hdistance, UnpackedFloat.abs_unpack_pack, UnpackedFloat.abs_sub_comm,
    ← UnpackedFloat.abs_unpack_pack]

end RecordGrid
