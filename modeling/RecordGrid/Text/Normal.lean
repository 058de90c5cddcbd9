import RecordGrid.Text.Normal.Table

/-!
# The composed normal form

Texts that mean the same are brought to one form: every character is taken
apart, the marks on one letter are put in the order of their classes, and
letters and marks are put together again as far as there are characters for it.
Hangul syllables are taken apart and put together by arithmetic.
-/

namespace RecordGrid.Text

/-- The class by which a mark is ordered; zero for what is not one. -/
def markClass (c : Char) : Nat :=
  match mapIn? markClassTable c with
  | some [k] => k.toNat
  | _ => 0

/-! ## Hangul

A syllable is one of 19 leading consonants, one of 21 vowels, and one of 27
trailing consonants or none.
-/

/-- The first syllable. -/
def syllables : Nat := 0xAC00

/-- The first leading consonant. -/
def leads : Nat := 0x1100

/-- The first vowel. -/
def vowels : Nat := 0x1161

/-- One before the first trailing consonant. -/
def trails : Nat := 0x11A7

/-- The letters of a syllable. -/
def syllableParts? (c : Char) : Option (List Char) :=
  let n := c.toNat - syllables
  if c.toNat < syllables ∨ 19 * 21 * 28 ≤ n then none
  else
    let trail := if n % 28 = 0 then [] else [Char.ofNat (trails + n % 28)]
    some (Char.ofNat (leads + n / 588) :: Char.ofNat (vowels + n % 588 / 28) :: trail)

/-- The syllable of a leading consonant and a vowel, or of a syllable that ends
in a vowel and a trailing consonant. -/
def syllable? (a b : Char) : Option Char :=
  let lead := a.toNat - leads
  let vowel := b.toNat - vowels
  let bare := a.toNat - syllables
  let trail := b.toNat - trails
  if leads ≤ a.toNat ∧ lead < 19 ∧ vowels ≤ b.toNat ∧ vowel < 21 then
    some (Char.ofNat (syllables + (lead * 21 + vowel) * 28))
  else if syllables ≤ a.toNat ∧ bare < 19 * 21 * 28 ∧ bare % 28 = 0 ∧ trails < b.toNat ∧
      trail < 28 then
    some (Char.ofNat (a.toNat + trail))
  else none

/-! ## Taking apart -/

/-- The characters that a character consists of, none of which has parts. -/
def parts (c : Char) : List Char :=
  if c.toNat < 0xC0 then [c]
  else
    ((syllableParts? c).or ((mapIn? composedTable c).or (mapIn? apartTable c))).getD [c]

/-- Puts a mark before those of its own class and of later ones. -/
def insertMark (c : Char) : List Char → List Char
  | [] => [c]
  | d :: ds =>
      if 0 < markClass d ∧ markClass d < markClass c then d :: insertMark c ds else c :: d :: ds

/-- The characters with the marks on every letter in the order of their classes. -/
def orderMarks (cs : List Char) : List Char := cs.foldr insertMark []

/-! ## Putting together -/

/-- The character that a character and the one after it make up. -/
def composed? (a b : Char) : Option Char :=
  let whole := (parts a ++ [b]).map Char.toNat
  (syllable? a b).or
    ((composedTable.find? fun run => run.target == whole).map fun run => Char.ofNat run.first)

/-- Puts characters together that follow `starter` and the marks on it, which
stand in `marks` with the last one first.  A mark reaches the starter only
across marks of lower classes. -/
def composeAfter : (starter : Char) → (marks : List Char) → List Char → List Char
  | starter, marks, [] => starter :: marks.reverse
  | starter, marks, c :: cs =>
      let isReached := marks.head?.all fun m => decide (markClass m < markClass c)
      match if isReached then composed? starter c else none with
      | some whole => composeAfter whole marks cs
      | none =>
          if markClass c = 0 then starter :: marks.reverse ++ composeAfter c [] cs
          else composeAfter starter (c :: marks) cs

/-- The characters put together; marks at the very start have no letter. -/
def compose : List Char → List Char
  | [] => []
  | c :: cs => if markClass c = 0 then composeAfter c [] cs else c :: compose cs

/-- The composed normal form of a text. -/
def normalForm (cs : List Char) : List Char := compose (orderMarks (cs.flatMap parts))

end RecordGrid.Text
