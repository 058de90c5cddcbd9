import RecordGrid.Text.Hex

/-!
# Percent encoding

Characters that may not stand in a part of a URL are written as the bytes of
their UTF-8 form, each as a percent sign and two hexadecimal digits.  Which
characters these are differs from part to part; characters beyond ASCII and
control characters are always among them.
-/

namespace RecordGrid.Url

open Text (hexValue?)

def utf8 (c : Char) : List Nat :=
  let n := c.toNat
  if n < 0x80 then [n]
  else if n < 0x800 then [0xC0 + n / 64, 0x80 + n % 64]
  else if n < 0x10000 then [0xE0 + n / 4096, 0x80 + n / 64 % 64, 0x80 + n % 64]
  else [0xF0 + n / 262144, 0x80 + n / 4096 % 64, 0x80 + n / 64 % 64, 0x80 + n % 64]

def percentByte (b : Nat) : List Char :=
  ['%', (Nat.digitChar (b / 16)).toUpper, (Nat.digitChar (b % 16)).toUpper]

/-- The part of a URL with the given characters encoded. -/
def encode (reserved : List Char) (cs : List Char) : List Char :=
  cs.flatMap fun c =>
    if c.toNat < 0x20 ∨ 0x7E < c.toNat ∨ c ∈ reserved then (utf8 c).flatMap percentByte else [c]

def fragmentReserved : List Char := [' ', '"', '<', '>', '\x60']

def queryReserved : List Char := [' ', '"', '#', '<', '>']

/-- In the query of a URL with an authority that is always there, the single
quote is encoded too. -/
def specialQueryReserved : List Char := '\'' :: queryReserved

def pathReserved : List Char := fragmentReserved ++ ['#', '?', '\x7b', '\x7d']

def userReserved : List Char :=
  pathReserved ++ ['/', ':', ';', '=', '@', '[', '\\', ']', '^', '|']

/-- The bytes of a text with every encoded byte decoded. -/
def decodeBytes : List Char → List Nat
  | [] => []
  | '%' :: a :: b :: rest =>
      match hexValue? a, hexValue? b with
      | some x, some y => (16 * x + y) :: decodeBytes rest
      | _, _ => '%'.toNat :: decodeBytes (a :: b :: rest)
  | c :: rest => utf8 c ++ decodeBytes rest

def decode? (cs : List Char) : Option (List Char) :=
  (String.fromUTF8? ⟨((decodeBytes cs).map UInt8.ofNat).toArray⟩).map String.toList

end RecordGrid.Url
