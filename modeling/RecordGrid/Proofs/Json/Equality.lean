import RecordGrid.Json.Basic

/-!
# Equality of values

Equality of values is not reflexive as long as a double may be no number.  A
value that equals anything at all equals itself.
-/

namespace RecordGrid

open Float.Model (UnpackedFloat)

theorem UnpackedFloat.compare_self {x : UnpackedFloat} (hx : x ≠ .notANumber) :
    x.compare x = some .eq := by
  cases x with
  | infinity sign => cases sign <;> rfl
  | notANumber => exact absurd rfl hx
  | zero sign => cases sign <;> rfl
  | finite sign m e hm =>
      have hsame : (compare e e).then (compare m m) = .eq := by
        have hexponent : compare e e = .eq := Std.ReflCmp.compare_self
        have hmantissa : compare m m = .eq := Std.ReflCmp.compare_self
        rw [hexponent, hmantissa]
        rfl
      cases sign with
      | negative => exact congrArg (fun o : Ordering => some o.swap) hsame
      | positive => exact congrArg some hsame

theorem Float.beq_self_of_isNumber {x : Float} (hx : x.toModel.unpack ≠ .notANumber) :
    (x == x) = true := by
  change (x.toModel.unpack.compare x.toModel.unpack == some .eq) = true
  rw [UnpackedFloat.compare_self hx]
  rfl

theorem Float.beq_self_of_isFinite {x : Float} (hx : Number.isFinite x = true) :
    (x == x) = true := by
  refine Float.beq_self_of_isNumber fun hnone => ?_
  rw [Number.isFinite, hnone] at hx
  cases hx

theorem Float.beq_self_of_beq {x y : Float} (h : (x == y) = true) : (x == x) = true := by
  have hxy : (x.toModel.unpack.compare y.toModel.unpack == some .eq) = true := h
  refine Float.beq_self_of_isNumber fun hnone => ?_
  rw [hnone] at hxy
  cases hxy

namespace Json

mutual

theorem beq_self_of_beq {a b : Json} (h : a.beq b = true) : a.beq a = true := by
  cases a with
  | null => rfl
  | bool x => simp [beq]
  | int n => simp [beq]
  | float x =>
      cases b <;> simp only [beq, Bool.false_eq_true] at h ⊢
      exact Float.beq_self_of_beq h
  | str s => simp [beq]
  | arr items =>
      cases b <;> simp only [beq, Bool.false_eq_true] at h ⊢
      exact beqItems_self_of_beqItems h
  | obj members =>
      cases b <;> simp only [beq, Bool.false_eq_true] at h ⊢
      exact beqMembers_self_of_beqMembers h

theorem beqItems_self_of_beqItems {as bs : List Json} (h : beqItems as bs = true) :
    beqItems as as = true := by
  cases as with
  | nil => rfl
  | cons a as =>
      cases bs with
      | nil => cases h
      | cons b bs =>
          simp only [beqItems, Bool.and_eq_true] at h ⊢
          exact ⟨beq_self_of_beq h.1, beqItems_self_of_beqItems h.2⟩

theorem beqMembers_self_of_beqMembers {as bs : List (String × Json)}
    (h : beqMembers as bs = true) : beqMembers as as = true := by
  cases as with
  | nil => rfl
  | cons m as =>
      cases bs with
      | nil => cases h
      | cons n bs =>
          simp only [beqMembers, Bool.and_eq_true] at h ⊢
          exact ⟨⟨by simp, beq_self_of_beq h.1.2⟩, beqMembers_self_of_beqMembers h.2⟩

end

/-- A stored value that equals anything equals itself. -/
theorem option_beq_self_of_beq {a b : Option Json} (h : (a == b) = true) :
    (a == a) = true := by
  cases a with
  | none => rfl
  | some a =>
      cases b with
      | none => cases h
      | some b => exact beq_self_of_beq h

end Json

end RecordGrid
