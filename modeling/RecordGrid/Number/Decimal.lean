import RecordGrid.Number.Binary

/-!
# Decimal text of doubles

Writing a double has two parts.  The digits are chosen by exact arithmetic:
the fewest that read back as the same double, or a fixed number of places.
How they are laid out is a `Layout`, one record for each kind of text.
-/

namespace RecordGrid.Number

open Float.Model (UnpackedFloat)

/-- The number `coefficient * 10 ^ exponent`. -/
structure Decimal where
  coefficient : Nat
  exponent : Int
deriving DecidableEq, Repr

/-- The exact quotient of two whole numbers. -/
structure Ratio where
  num : Nat
  den : Nat

/-- The exact value of `m * 2 ^ e`. -/
def Ratio.ofBinary (m : Nat) (e : Int) : Ratio :=
  if 0 ≤ e then ⟨m * Nat.pow 2 e.toNat, 1⟩ else ⟨m, Nat.pow 2 (-e).toNat⟩

/-- Divides by `10 ^ k`. -/
def Ratio.scale (r : Ratio) (k : Int) : Ratio :=
  if 0 ≤ k then ⟨r.num, r.den * Nat.pow 10 k.toNat⟩
  else ⟨r.num * Nat.pow 10 (-k).toNat, r.den⟩

/-- Whether the value is at least `10 ^ k`. -/
def Ratio.reaches (r : Ratio) (k : Int) : Bool :=
  let s := r.scale k
  decide (s.den ≤ s.num)

/-- The exponent of the leading decimal digit of a positive `m * 2 ^ e`: a
guess from the binary length, mended by at most one. -/
def leadingExponent (m : Nat) (e : Int) : Int :=
  let r := Ratio.ofBinary m e
  let guess := (((m.log2 : Int) + e) * 30103).fdiv 100000
  if !r.reaches guess then guess - 1
  else if r.reaches (guess + 1) then guess + 1
  else guess

/-- The numbers that read back as `m * 2 ^ e` lie between `low * 2 ^ (e - 2)`
and `high * 2 ^ (e - 2)`; the ends belong to them when `m` is even.  Below a
power of two the doubles are twice as dense, so that end is nearer. -/
structure Neighbourhood where
  low : Nat
  high : Nat
  closed : Bool

def neighbourhood (m : Nat) (e : Int) : Neighbourhood where
  low := if m = 0x10000000000000 && decide (-1074 < e) then 4 * m - 1 else 4 * m - 2
  high := 4 * m + 2
  closed := m % 2 == 0

/-- Whether `c * 10 ^ k` reads back as `m * 2 ^ e`. -/
def readsBack (m : Nat) (e : Int) (c : Nat) (k : Int) : Bool :=
  let n := neighbourhood m e
  let quarter := (Ratio.ofBinary 1 (e - 2)).scale k
  let v := c * quarter.den
  if n.closed then
    decide (n.low * quarter.num ≤ v) && decide (v ≤ n.high * quarter.num)
  else
    decide (n.low * quarter.num < v) && decide (v < n.high * quarter.num)

/-- `c * 10 ^ k`, where a carry past `count` digits leaves a single one. -/
def Decimal.carried (c : Nat) (k : Int) (count : Nat) : Decimal :=
  if c = Nat.pow 10 count then ⟨1, k + count⟩ else ⟨c, k⟩

/-- The decimal with `count` digits that reads back as `m * 2 ^ e` and is
nearest to it, if there is one.  `tieUp` decides between two equally near. -/
def withDigits (tieUp : Bool) (m : Nat) (e : Int) (count : Nat) : Option Decimal :=
  let k := leadingExponent m e - (count : Int) + 1
  let r := (Ratio.ofBinary m e).scale k
  let c := r.num / r.den
  let rest := r.num % r.den
  let down := readsBack m e c k
  let up := readsBack m e (c + 1) k
  let upward :=
    decide (r.den < 2 * rest) ||
      (r.den == 2 * rest && (tieUp || c % 2 == 1))
  match down, up with
  | true, true => some (if upward then Decimal.carried (c + 1) k count else ⟨c, k⟩)
  | true, false => some ⟨c, k⟩
  | false, true => some (Decimal.carried (c + 1) k count)
  | false, false => none

/-- The decimal of fewest digits that reads back as `m * 2 ^ e`.  Seventeen
digits tell all doubles apart. -/
def shortest (tieUp : Bool) (m : Nat) (e : Int) : Decimal :=
  ((List.range 17).findSome? fun n => withDigits tieUp m e (n + 1)).getD ⟨m, e⟩

/-- How the shortest digits of a double are laid out. -/
structure Layout where
  /-- The exponents of the leading digit that are written without an exponent. -/
  positional : Int → Bool
  /-- Whether a whole number written without an exponent ends in `.0`. -/
  pointZero : Bool
  /-- Whether the upper of two equally near decimals is taken. -/
  tieUp : Bool

/-- Text shown to people: never an exponent, no point on whole numbers. -/
def Layout.plain : Layout where
  positional _ := true
  pointZero := false
  tieUp := true

/-- Numbers in JSON text: always a point or an exponent. -/
def Layout.json : Layout where
  positional n := decide (-5 ≤ n) && decide (n < 16)
  pointZero := true
  tieUp := false

def digits (n : Nat) : List Char := Nat.toDigits 10 n

/-- The digits with a point before the last `places` of them. -/
def pointed (ds : List Char) (places : Nat) : List Char :=
  if places = 0 then ds
  else
    let ds := List.replicate (places + 1 - ds.length) '0' ++ ds
    ds.take (ds.length - places) ++ '.' :: ds.drop (ds.length - places)

/-- The text of a positive decimal. -/
def Layout.write (layout : Layout) (d : Decimal) : List Char :=
  let ds := digits d.coefficient
  let lead := d.exponent + ds.length - 1
  if layout.positional lead then
    if 0 ≤ d.exponent then
      ds ++ List.replicate d.exponent.toNat '0' ++ (if layout.pointZero then ['.', '0'] else [])
    else pointed ds (-d.exponent).toNat
  else
    pointed ds (ds.length - 1) ++ 'e' :: (if lead < 0 then '-' else '+') :: digits lead.natAbs

def signText : UnpackedFloat.Sign → List Char
  | .positive => []
  | .negative => ['-']

/-- The text of a double in a layout. -/
def Layout.text (layout : Layout) (x : Float) : String :=
  String.ofList <|
    match x.toModel.unpack with
    | .notANumber => ['N', 'a', 'N']
    | .infinity sign => signText sign ++ ['i', 'n', 'f']
    | .zero sign => signText sign ++ layout.write ⟨0, 0⟩
    | .finite sign m e _ => signText sign ++ layout.write (shortest layout.tieUp m e)

/-- The quotient rounded to the nearest whole number, a half to the even one. -/
def roundHalfEven (num den : Nat) : Nat :=
  let q := num / den
  let rest := num % den
  if den < 2 * rest || (den == 2 * rest && q % 2 == 1) then q + 1 else q

/-- The double with a fixed number of decimal places, rounded from its exact
value; nothing for what is not finite. -/
def fixedText (x : Float) (places : Nat) : String :=
  String.ofList <|
    match x.toModel.unpack with
    | .notANumber => []
    | .infinity _ => []
    | .zero sign => signText sign ++ pointed ['0'] places
    | .finite sign m e _ =>
        let r := (Ratio.ofBinary m e).scale (-(places : Int))
        signText sign ++ pointed (digits (roundHalfEven r.num r.den)) places

end RecordGrid.Number
