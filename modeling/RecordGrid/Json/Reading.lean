import RecordGrid.Json.Basic
import RecordGrid.Number.Reading
import RecordGrid.Text.Hex

/-!
# Reading JSON text

The text of one value, with blanks around it and nothing else.  What is read of
it may be nested in up to 127 arrays and objects.  Whole numbers that fit 64 bits are
exact.  The digits of any other number are gathered into a 64-bit whole number
as far as they fit, which is rounded to a double and scaled by a power of ten;
a number past the largest double is refused.
-/

namespace RecordGrid.Json

open Text (hexValue?)

/-- Containers that one value may be nested in. -/
def maxNesting : Nat := 127

def isSpace (c : Char) : Bool := c == ' ' || c == '\n' || c == '\t' || c == '\r'

def skipSpace (cs : List Char) : List Char := cs.dropWhile isSpace

/-- Digits gathered into 64 bits: the number so far and whether it is full. -/
structure Gathered where
  significand : Nat
  taken : Nat
  full : Bool

/-- Takes one more digit in, unless a digit before did not fit. -/
def Gathered.push (g : Gathered) (c : Char) : Gathered :=
  let n := 10 * g.significand + (c.toNat - '0'.toNat)
  if g.full || decide (0x10000000000000000 ≤ n) then ⟨g.significand, g.taken, true⟩
  else ⟨n, g.taken + 1, false⟩

/-- Takes in digits onto a number as far as they fit. -/
def gather (start : Nat) (ds : List Char) : Gathered :=
  ds.foldl Gathered.push ⟨start, 0, false⟩

/-- Divides by `10 ^ e`, at most `10 ^ 308` at a time. -/
def scaleDown (x : Float) (e : Nat) : Float :=
  if e ≤ 308 then x / Number.ofDecimal 1 e
  else if x == 0.0 then x
  else scaleDown (x / 1e308) (e - 308)
termination_by e

/-- Scales by `10 ^ e`; nothing past the largest double. -/
def scale? (x : Float) (e : Int) : Option Float :=
  if e < 0 then some (scaleDown x e.natAbs)
  else if e ≤ 308 then
    let y := x * Number.ofDecimal 1 e
    if y.isInf then none else some y
  else if x == 0.0 then some x
  else none

/-- A number written with a point or an exponent, or too long for 64 bits. -/
def longNumber? (negative : Bool) (whole fraction : List Char) (e : Int) : Option Float :=
  let w := gather 0 whole
  let f := gather w.significand fraction
  let dropped : Int := whole.length - w.taken
  let signed (x : Float) : Float := if negative then -x else x
  if 0x80000000 ≤ e.natAbs then
    if f.significand ≠ 0 ∧ 0 < e then none else some (signed 0.0)
  else
    let e := max (-0x80000000) (min 0x7FFFFFFF (dropped - f.taken + e))
    (scale? f.significand.toUInt64.toFloat e).map signed

/-- A number as it is written; there is no exponent or none is said. -/
structure Numeral where
  negative : Bool
  whole : List Char
  fraction : List Char
  exponent : Option Int

def Numeral.value? (m : Numeral) : Option Json :=
  let long : Option Json :=
    (longNumber? m.negative m.whole m.fraction (m.exponent.getD 0)).map .float
  if !m.fraction.isEmpty || m.exponent.isSome then long
  else
    let n := Number.digitsValue m.whole
    if m.negative then
      if n = 0 then some (.float (-0.0))
      else if n ≤ 0x8000000000000000 then some (.int (-n))
      else long
    else if n < 0x10000000000000000 then some (.int n)
    else long

def fraction? : List Char → Option (List Char × List Char)
  | '.' :: cs =>
      let ds := cs.takeWhile Char.isDigit
      if ds.isEmpty then none else some (ds, cs.dropWhile Char.isDigit)
  | cs => some ([], cs)

/-- The digits after `e`, with their sign. -/
def signedDigits? (cs : List Char) : Option (Int × List Char) :=
  let (negative, cs) := Number.splitSign cs
  let ds := cs.takeWhile Char.isDigit
  if ds.isEmpty then none
  else
    let n : Int := Number.digitsValue ds
    some (if negative then -n else n, cs.dropWhile Char.isDigit)

def exponent? : List Char → Option (Option Int × List Char)
  | 'e' :: cs | 'E' :: cs => (signedDigits? cs).map fun (e, rest) => (some e, rest)
  | cs => some (none, cs)

/-- A number as it is written at the start of a text. -/
def numeral? (cs : List Char) : Option (Numeral × List Char) := do
  let (negative, cs) :=
    match cs with
    | '-' :: cs => (true, cs)
    | cs => (false, cs)
  let whole := cs.takeWhile Char.isDigit
  if whole.isEmpty || (whole.head? == some '0' && whole.length != 1) then none
  else
    let (fraction, cs) ← fraction? (cs.dropWhile Char.isDigit)
    let (exponent, cs) ← exponent? cs
    some ({ negative, whole, fraction, exponent }, cs)

def number? (cs : List Char) : Option (Json × List Char) :=
  (numeral? cs).bind fun (m, rest) => m.value?.map fun j => (j, rest)

/-- Four hexadecimal digits at the start of a text. -/
def hexUnit? : List Char → Option (Nat × List Char)
  | a :: b :: c :: d :: rest => do
      let a ← hexValue? a
      let b ← hexValue? b
      let c ← hexValue? c
      let d ← hexValue? d
      some (((a * 16 + b) * 16 + c) * 16 + d, rest)
  | _ => none

/-- The character after `\u`; a high surrogate needs its low one. -/
def unicodeEscape? (cs : List Char) : Option (Char × List Char) :=
  (hexUnit? cs).bind fun (high, rest) =>
    if 0xD800 ≤ high ∧ high < 0xDC00 then
      match rest with
      | '\\' :: 'u' :: rest =>
          (hexUnit? rest).bind fun (low, rest) =>
            if 0xDC00 ≤ low ∧ low < 0xE000 then
              some (Char.ofNat (0x10000 + (high - 0xD800) * 0x400 + (low - 0xDC00)), rest)
            else none
      | _ => none
    else if 0xDC00 ≤ high ∧ high < 0xE000 then none
    else some (Char.ofNat high, rest)

/-- The character of a one-letter escape. -/
def letterEscape? (c : Char) : Option Char :=
  if c = '"' ∨ c = '\\' ∨ c = '/' then some c
  else if c = 'b' then some '\x08'
  else if c = 'f' then some '\x0c'
  else if c = 'n' then some '\n'
  else if c = 'r' then some '\r'
  else if c = 't' then some '\t'
  else none

/-- The rest of a string after its opening quote, with what follows it. -/
def stringRest? : (steps : Nat) → List Char → Option (List Char × List Char)
  | 0, _ => none
  | _, [] => none
  | steps + 1, c :: cs =>
      if c = '"' then some ([], cs)
      else if c = '\\' then
        match cs with
        | 'u' :: cs =>
            (unicodeEscape? cs).bind fun (d, rest) =>
              (stringRest? steps rest).map fun (s, rest) => (d :: s, rest)
        | e :: cs =>
            (letterEscape? e).bind fun d =>
              (stringRest? steps cs).map fun (s, rest) => (d :: s, rest)
        | [] => none
      else if c.toNat < 32 then none
      else (stringRest? steps cs).map fun (s, rest) => (c :: s, rest)

def string? (cs : List Char) : Option (String × List Char) :=
  (stringRest? (cs.length + 1) cs).map fun (s, rest) => (String.ofList s, rest)

/-- A word that stands for a value. -/
def word? (word : List Char) (value : Json) (cs : List Char) : Option (Json × List Char) :=
  if word.isPrefixOf cs then some (value, cs.drop word.length) else none

/-! ## Values passed over

Of a value that nobody asks for only the form is looked at: it may be nested to
any depth, its numbers may be too large, and its strings may name halves of
characters.
-/

/-- What follows a string after its opening quote. -/
def skipString? : List Char → Option (List Char)
  | [] => none
  | '"' :: cs => some cs
  | '\\' :: 'u' :: a :: b :: c :: d :: cs =>
      if [a, b, c, d].all fun h => (hexValue? h).isSome then skipString? cs else none
  | '\\' :: e :: cs => if (letterEscape? e).isSome then skipString? cs else none
  | c :: cs => if c = '\\' ∨ c.toNat < 32 then none else skipString? cs

/-- What follows a key and its colon. -/
def skipKey? (cs : List Char) : Option (List Char) :=
  match skipSpace cs with
  | '"' :: cs =>
      (skipString? cs).bind fun rest =>
        match skipSpace rest with
        | ':' :: rest => some rest
        | _ => none
  | _ => none

/-- What follows a number or a word. -/
def skipScalar? (cs : List Char) : Option (List Char) :=
  match cs with
  | 't' :: cs => (word? ['r', 'u', 'e'] .null cs).map Prod.snd
  | 'f' :: cs => (word? ['a', 'l', 's', 'e'] .null cs).map Prod.snd
  | 'n' :: cs => (word? ['u', 'l', 'l'] .null cs).map Prod.snd
  | cs => (numeral? cs).map Prod.snd

mutual

/-- What follows a value, `closers` being the brackets and braces that are still
to be closed; `steps` bounds the length of the text. -/
def skipValue? : (steps : Nat) → (closers : List Char) → List Char → Option (List Char)
  | 0, _, _ => none
  | steps + 1, closers, cs =>
      match skipSpace cs with
      | '"' :: cs => (skipString? cs).bind fun rest => skipMore? steps closers rest
      | '[' :: cs =>
          match skipSpace cs with
          | ']' :: cs => skipMore? steps closers cs
          | cs => skipValue? steps (']' :: closers) cs
      | '\x7b' :: cs =>
          match skipSpace cs with
          | '\x7d' :: cs => skipMore? steps closers cs
          | cs => (skipKey? cs).bind fun rest => skipValue? steps ('\x7d' :: closers) rest
      | cs => (skipScalar? cs).bind fun rest => skipMore? steps closers rest

/-- What follows the containers in which a value has just ended. -/
def skipMore? : (steps : Nat) → (closers : List Char) → List Char → Option (List Char)
  | _, [], cs => some cs
  | 0, _ :: _, _ => none
  | steps + 1, closer :: outer, cs =>
      match skipSpace cs with
      | ',' :: cs =>
          if closer = ']' then skipValue? steps (closer :: outer) cs
          else (skipKey? cs).bind fun rest => skipValue? steps (closer :: outer) rest
      | c :: cs => if c = closer then skipMore? steps outer cs else none
      | [] => none

end

/-! ## Values that are read -/

/-- The parts of a value that are asked for: all of it, the members of a record
by their names, or some part of every item or of every member. -/
inductive Scope where
  | whole
  | record (names : List String)
  | items (part : Scope)
  | members (part : Scope)

/-- What is asked for of an item. -/
def Scope.item : Scope → Scope
  | .items part => part
  | _ => .whole

/-- What is asked for of a member, if anything is. -/
def Scope.member? : Scope → String → Option Scope
  | .record names, key => if names.contains key then some .whole else none
  | .members part, _ => some part
  | _, _ => some .whole

mutual

/-- A value at the start of a text; `steps` bounds the length of the text and
`nesting` the containers that may still be opened. -/
def value? : (steps nesting : Nat) → Scope → List Char → Option (Json × List Char)
  | 0, _, _, _ => none
  | steps + 1, nesting, scope, cs =>
      match skipSpace cs with
      | '"' :: cs => (string? cs).map fun (s, rest) => (.str s, rest)
      | '[' :: cs =>
          match nesting with
          | 0 => none
          | nesting + 1 =>
              match skipSpace cs with
              | ']' :: cs => some (.arr [], cs)
              | cs =>
                  (items? steps nesting scope.item cs).map fun (items, rest) => (.arr items, rest)
      | '\x7b' :: cs =>
          match nesting with
          | 0 => none
          | nesting + 1 =>
              match skipSpace cs with
              | '\x7d' :: cs => some (.obj [], cs)
              | cs =>
                  (members? steps nesting scope cs).map fun (members, rest) =>
                    (.obj members, rest)
      | 't' :: cs => word? ['r', 'u', 'e'] (.bool true) cs
      | 'f' :: cs => word? ['a', 'l', 's', 'e'] (.bool false) cs
      | 'n' :: cs => word? ['u', 'l', 'l'] .null cs
      | cs => number? cs

/-- The items of an array, up to its closing bracket. -/
def items? : (steps nesting : Nat) → Scope → List Char → Option (List Json × List Char)
  | 0, _, _, _ => none
  | steps + 1, nesting, scope, cs =>
      (value? steps nesting scope cs).bind fun (item, rest) =>
        match skipSpace rest with
        | ',' :: rest =>
            (items? steps nesting scope rest).map fun (items, rest) => (item :: items, rest)
        | ']' :: rest => some ([item], rest)
        | _ => none

/-- The members of an object that are asked for, up to its closing brace. -/
def members? :
    (steps nesting : Nat) → Scope → List Char → Option (List (String × Json) × List Char)
  | 0, _, _, _ => none
  | steps + 1, nesting, scope, cs =>
      match skipSpace cs with
      | '"' :: cs =>
          (string? cs).bind fun (key, rest) =>
            match skipSpace rest with
            | ':' :: rest =>
                let member : Option (List (String × Json) × List Char) :=
                  match scope.member? key with
                  | some part =>
                      (value? steps nesting part rest).map fun (value, rest) =>
                        ([(key, value)], rest)
                  | none =>
                      (skipValue? (rest.length + 1) [] rest).map fun rest => ([], rest)
                member.bind fun (member, rest) =>
                  match skipSpace rest with
                  | ',' :: rest =>
                      (members? steps nesting scope rest).map fun (members, rest) =>
                        (member ++ members, rest)
                  | '\x7d' :: rest => some (member, rest)
                  | _ => none
            | _ => none
      | _ => none

end

/-- The parts that are asked for of the value that a text holds, with the
members of objects as written. -/
def parsePart? (scope : Scope) (text : String) : Option Json :=
  let cs := text.toList
  (value? (2 * cs.length + 1) maxNesting scope cs).bind fun (j, rest) =>
    if (skipSpace rest).isEmpty then some j else none

/-- The value that a text holds, with the members of objects as written. -/
def parse? (text : String) : Option Json := parsePart? .whole text

/-- The value that a text holds, in canonical form. -/
def read? (text : String) : Option Json := (parse? text).map canonical

end RecordGrid.Json
