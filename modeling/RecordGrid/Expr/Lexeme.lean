import RecordGrid.Expr.Token
import RecordGrid.Number.Reading
import RecordGrid.Text.Blank
import RecordGrid.Text.Letter

/-!
# Splitting text into tokens

A token is the longest word at the start of the text, blanks before it aside.
Every token takes at least one character, which is why `tokens` ends.
-/

namespace RecordGrid.Token

/-- Characters that begin the id of a field. -/
def startsIdentifier (c : Char) : Bool := Text.isLetter c || c == '_' || c == '$'

def continuesIdentifier (c : Char) : Bool := startsIdentifier c || c.isDigit

/-- The token of a word: a keyword, or the id of a field. -/
def ofWord (word : String) : Token :=
  if word = "true" then .boolean true
  else if word = "false" then .boolean false
  else if word = "null" ∨ word = "undefined" then .null
  else .identifier word

/-- The characters that go on with a number.  `point` and `exponent` tell what
the number has already, `sign` that the exponent has just begun. -/
def numberRest (point exponent sign : Bool) : List Char → List Char × List Char
  | [] => ([], [])
  | c :: cs =>
      let take (point exponent sign : Bool) :=
        let (word, rest) := numberRest point exponent sign cs
        (c :: word, rest)
      if sign && (c == '+' || c == '-') then take point exponent false
      else if c.isDigit then take point exponent false
      else if c == '.' && !point && !exponent then take true exponent false
      else if (c == 'e' || c == 'E') && !exponent then take point true true
      else ([], c :: cs)

/-- A number that begins with `c`; a word that is no number is illegal. -/
def scanNumber (c : Char) (cs : List Char) : Token × List Char :=
  let (word, rest) := numberRest (c == '.') false false cs
  match Number.read? (String.ofList (c :: word)) with
  | some x => (.number x, rest)
  | none => (.illegal c, rest)

/-- The character that an escaped one stands for. -/
def unescaped (c : Char) : Char :=
  if c = 'n' then '\n' else if c = 't' then '\t' else if c = 'r' then '\r' else c

/-- The characters up to the closing quote, with what follows it. -/
def textRest? (quote : Char) : List Char → Option (List Char × List Char)
  | [] => none
  | '\\' :: c :: cs => (textRest? quote cs).map fun (s, rest) => (unescaped c :: s, rest)
  | c :: cs =>
      if c = quote then some ([], cs)
      else if c = '\\' then none
      else (textRest? quote cs).map fun (s, rest) => (c :: s, rest)

/-- A text after its opening quote; without a closing one the quote is illegal
and all the rest is taken. -/
def scanText (quote : Char) (cs : List Char) : Token × List Char :=
  match textRest? quote cs with
  | some (s, rest) => (.text (String.ofList s), rest)
  | none => (.illegal quote, [])

/-- An operator or delimiter that begins with `c`. -/
def scanSymbol? (c : Char) (cs : List Char) : Option (Token × List Char) :=
  match c, cs with
  | '+', cs => some (.symbol .plus, cs)
  | '-', cs => some (.symbol .minus, cs)
  | '*', cs => some (.symbol .asterisk, cs)
  | '/', cs => some (.symbol .slash, cs)
  | '%', cs => some (.symbol .percent, cs)
  | '(', cs => some (.symbol .leftParen, cs)
  | ')', cs => some (.symbol .rightParen, cs)
  | ',', cs => some (.symbol .comma, cs)
  | '?', cs => some (.symbol .question, cs)
  | ':', cs => some (.symbol .colon, cs)
  | '=', '=' :: '=' :: cs => some (.symbol .equal, cs)
  | '=', '=' :: cs => some (.symbol .equal, cs)
  | '=', cs => some (.illegal '=', cs)
  | '!', '=' :: '=' :: cs => some (.symbol .notEqual, cs)
  | '!', '=' :: cs => some (.symbol .notEqual, cs)
  | '!', cs => some (.symbol .bang, cs)
  | '<', '=' :: cs => some (.symbol .lessEqual, cs)
  | '<', '<' :: cs => some (.illegal '<', '<' :: cs)
  | '<', cs => some (.symbol .less, cs)
  | '>', '=' :: cs => some (.symbol .greaterEqual, cs)
  | '>', '>' :: cs => some (.illegal '>', '>' :: cs)
  | '>', cs => some (.symbol .greater, cs)
  | '&', '&' :: cs => some (.symbol .and, cs)
  | '&', cs => some (.illegal '&', cs)
  | '|', '|' :: cs => some (.symbol .or, cs)
  | '|', cs => some (.illegal '|', cs)
  | _, _ => none

def scan (c : Char) (cs : List Char) : Token × List Char :=
  match scanSymbol? c cs with
  | some result => result
  | none =>
      if c == '"' || c == '\'' then scanText c cs
      else if c.isDigit || c == '.' then scanNumber c cs
      else if startsIdentifier c then
        (ofWord (String.ofList (c :: cs.takeWhile continuesIdentifier)),
          cs.dropWhile continuesIdentifier)
      else (.illegal c, cs)

theorem length_numberRest_le (point exponent sign : Bool) (cs : List Char) :
    (numberRest point exponent sign cs).2.length ≤ cs.length := by
  induction cs generalizing point exponent sign with
  | nil => simp [numberRest]
  | cons c cs ih =>
      have step (point exponent sign : Bool) :
          (numberRest point exponent sign cs).2.length ≤ (c :: cs).length :=
        Nat.le_succ_of_le (ih point exponent sign)
      simp only [numberRest]
      split
      · exact step _ _ _
      · split
        · exact step _ _ _
        · split
          · exact step _ _ _
          · split
            · exact step _ _ _
            · exact Nat.le_refl _

theorem length_textRest_le {quote : Char} {cs : List Char} {s rest : List Char}
    (h : textRest? quote cs = some (s, rest)) : rest.length ≤ cs.length := by
  fun_induction textRest? quote cs generalizing s rest with
  | case1 => simp at h
  | case2 c cs ih =>
      obtain ⟨⟨t, r⟩, hr, he⟩ := Option.map_eq_some_iff.1 h
      cases he
      have := ih hr
      simp only [List.length_cons]
      omega
  | case3 => cases h; simp
  | case4 => simp at h
  | case5 c cs _ _ _ ih =>
      obtain ⟨⟨t, r⟩, hr, he⟩ := Option.map_eq_some_iff.1 h
      cases he
      have := ih hr
      simp only [List.length_cons]
      omega

theorem length_scanSymbol_le {c : Char} {cs : List Char} {t : Token} {rest : List Char}
    (h : scanSymbol? c cs = some (t, rest)) : rest.length ≤ cs.length := by
  unfold scanSymbol? at h
  split at h <;> grind

/-- A token leaves no more than what follows its first character. -/
theorem length_scan_le (c : Char) (cs : List Char) : (scan c cs).2.length ≤ cs.length := by
  unfold scan
  split
  · next r h => exact length_scanSymbol_le h
  · split
    · unfold scanText
      split
      · next h => exact length_textRest_le h
      · simp
    · split
      · have := length_numberRest_le (c == '.') false false cs
        simp only [scanNumber]
        split <;> exact this
      · split
        · exact (List.dropWhile_sublist _).length_le
        · exact Nat.le_refl _

def tokens (cs : List Char) : List Token :=
  match _h : Text.trimStart cs with
  | [] => []
  | c :: rest => (scan c rest).1 :: tokens (scan c rest).2
termination_by cs.length
decreasing_by
  have hle := length_scan_le c rest
  have hsub := (List.dropWhile_sublist Text.isBlank (l := cs)).length_le
  simp only [Text.trimStart] at _h
  rw [_h] at hsub
  simp only [List.length_cons] at hsub
  omega

end RecordGrid.Token
