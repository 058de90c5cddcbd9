import RecordGrid.Text.Normal
import RecordGrid.Url.Domain.Class
import RecordGrid.Url.Domain.Table
import RecordGrid.Url.Punycode

/-!
# Domains

A domain is labels between points.  However it is written, it is brought to one
spelling: what only looks different becomes the same, and every label that goes
beyond ASCII is written in Punycode after `xn--`.  A label may not start with a
mark, a joiner has to have something to join, and letters of the two directions
may not be mixed.
-/

namespace RecordGrid.Url

open Text (inTable mapIn? normalForm parts pieces)

/-! ## Spelling -/

/-- What stands for a character, where it may be written at all. -/
def spelling? (c : Char) : Option (List Char) :=
  if inTable allowedTable c then
    some ((parts c).flatMap fun d => (mapIn? domainTable d).getD [d])
  else none

/-- The one spelling of a text. -/
def respell? (cs : List Char) : Option (List Char) :=
  (cs.mapM spelling?).map fun spellings => normalForm spellings.flatten

def hostForbidden : List Char :=
  ['\x00', '\t', '\n', '\r', ' ', '#', '/', ':', '<', '>', '?', '@', '[', '\\', ']', '^', '|']

def isDomainForbidden (c : Char) : Bool :=
  hostForbidden.contains c || decide (c.toNat < 0x20) || c == '%' || c == '\x7f'

/-! ## Labels -/

def isAscii (c : Char) : Bool := decide (c.toNat < 128)

/-- The longest label that is written in Punycode. -/
def maxWritten : Nat := 1000

/-- The longest Punycode that is read. -/
def maxRead : Nat := 2000

/-- What a label in Punycode stands for; any other stands for itself. -/
def unpacked? (label : List Char) : Option (List Char) :=
  match label with
  | 'x' :: 'n' :: '-' :: '-' :: rest =>
      if rest.isEmpty || rest.getLast? == some '-' || !rest.all isAscii ||
          decide (maxRead < rest.length) then none
      else
        (unpunycode? rest).bind fun label =>
          if respell? label = some label then some label else none
  | label => some label

/-- Whether the first character that others do not join across is in a table. -/
def meetsJoining (table : List Text.CodeRun) (cs : List Char) : Bool :=
  match cs.dropWhile fun c => !inTable table c && inTable transparentTable c with
  | [] => false
  | c :: _ => inTable table c

/-- Whether every joiner stands after a mark that silences a vowel, or, where
it is the one that keeps letters apart, between two that would join; `before`
is what precedes, last character first. -/
def joinersFit : (before : List Char) → List Char → Bool
  | _, [] => true
  | before, c :: cs =>
      let isSilenced := before.head?.any fun b => Text.markClass b == 9
      let fits :=
        if c = '\u200c' then
          isSilenced ||
            (meetsJoining joiningNextTable before && meetsJoining joiningPreviousTable cs)
        else c ≠ '\u200d' || isSilenced
      fits && joinersFit (c :: before) cs

/-- Whether a label is well formed apart from its direction. -/
def isLabel (label : List Char) : Bool :=
  !(label.head?.any fun c => inTable markTable c) && joinersFit [] label &&
    (label.all isAscii || decide (label.length ≤ maxWritten))

/-- The label as it is written in a domain. -/
def packed (label : List Char) : List Char :=
  if label.all isAscii then label else "xn--".toList ++ punycode label

/-! ## Direction -/

def isRightward (c : Char) : Bool := [.rightToLeft, .arabicDigit].contains (direction c)

/-- Whether the characters of a label go together in a domain in which some are
written from right to left. -/
def isDirected (label : List Char) : Bool :=
  let ds := label.map direction
  let last := (ds.reverse.dropWhile (· = .nonspacing)).head?
  match ds with
  | [] => true
  | .leftToRight :: _ =>
      ds.all (fun d => d ≠ .rightToLeft && d ≠ .arabicDigit) &&
        last.all fun d => d = .leftToRight || d = .commonDigit
  | .rightToLeft :: _ =>
      ds.all (fun d => d ≠ .leftToRight) &&
        (last.all fun d => d ≠ .undirected) &&
        !(ds.contains .commonDigit && ds.contains .arabicDigit)
  | _ => false

/-! ## Domains -/

def domainName? (cs : List Char) : Option (List Char) := do
  let name ← respell? cs
  if name.any isDomainForbidden then none
  else
    let labels ← (pieces (· == '.') name).mapM unpacked?
    if labels.all isLabel && (!labels.any (·.any isRightward) || labels.all isDirected) then
      some (List.intercalate ['.'] (labels.map packed))
    else none

end RecordGrid.Url
