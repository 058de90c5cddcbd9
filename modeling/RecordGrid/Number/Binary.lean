/-!
# Doubles by their exact value

A finite double is a signed whole multiple of a power of two.  The operations
of this file are defined on that exact value with whole-number arithmetic and
rounded once, to the nearest double with ties to even, so that each of them has
one meaning on every platform.
-/

namespace RecordGrid.Number

open Float.Model (UnpackedFloat)

/-- The double nearest to `m * 2 ^ e`, carrying the given sign also when it is
zero. -/
def nearest (sign : UnpackedFloat.Sign) (m : Nat) (e : Int) : Float :=
  Float.ofModel (Float.Model.pack (UnpackedFloat.round .binary64 sign m e))

def isWhole (x : Float) : Bool :=
  match x.toModel.unpack with
  | .zero _ => true
  | .finite _ m e _ => decide (0 ≤ e) || m % Nat.pow 2 (-e).toNat == 0
  | _ => false

/-- Whether the double is a number at all and not infinite. -/
def isFinite (x : Float) : Bool :=
  match x.toModel.unpack with
  | .zero _ => true
  | .finite _ _ _ _ => true
  | _ => false

/-- Whether the sign of the double is negative; so it is for `-0.0`. -/
def isNegative (x : Float) : Bool :=
  match x.toModel.unpack with
  | .zero .negative => true
  | .finite .negative _ _ _ => true
  | .infinity .negative => true
  | _ => false

/-- The whole part, toward zero; zero where there is none. -/
def toInt (x : Float) : Int :=
  match x.toModel.unpack with
  | .finite sign m e _ =>
      sign.apply (if 0 ≤ e then m * Nat.pow 2 e.toNat else m / Nat.pow 2 (-e).toNat : Nat)
  | _ => 0

/-- The whole part, held within bounds; an infinity is at its bound. -/
def toIntWithin (low high : Int) (x : Float) : Int :=
  match x.toModel.unpack with
  | .infinity .positive => high
  | .infinity .negative => low
  | _ => max low (min high (toInt x))

/-- The nearest whole number, where a half goes away from zero. -/
def roundHalfAway (x : Float) : Float :=
  match x.toModel.unpack with
  | .finite sign m e _ =>
      if 0 ≤ e then x
      else
        let unit := Nat.pow 2 (-e).toNat
        nearest sign ((2 * m + unit) / (2 * unit)) 0
  | _ => x

/-- What is left of `x` after the whole multiples of `y`, with the sign of
`x`.  The remainder of two doubles is a double, so nothing is rounded. -/
def remainder (x y : Float) : Float :=
  match x.toModel.unpack, y.toModel.unpack with
  | .finite sign m e _, .finite _ n f _ =>
      let unit := min e f
      nearest sign
        ((m * Nat.pow 2 (e - unit).toNat) % (n * Nat.pow 2 (f - unit).toNat)) unit
  | .finite _ _ _ _, .infinity _ => x
  | .zero _, .finite _ _ _ _ => x
  | .zero _, .infinity _ => x
  | _, _ => 0.0 / 0.0

/-- Multiplies `base` into `acc` once for each unit of `n`, squaring along the
binary digits of `n`. -/
def powerFrom (acc base : Float) : (steps : Nat) → (n : Nat) → Float
  | 0, _ => acc
  | steps + 1, n =>
      let acc := if n % 2 = 1 then acc * base else acc
      if n / 2 = 0 then acc else powerFrom acc (base * base) steps (n / 2)

/-- The power with a whole exponent; a negative one gives the reciprocal. -/
def power (base : Float) (n : Int) : Float :=
  let p := powerFrom 1.0 base (n.natAbs.log2 + 1) n.natAbs
  if n < 0 then 1.0 / p else p

end RecordGrid.Number
