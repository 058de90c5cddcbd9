import RecordGrid.Expr.Lexeme
import RecordGrid.Proofs.Number.Whole

/-!
# Tokens of written text

What the tokens of a text are where it begins with a symbol, a number, a quoted
text or a word.  A number and a word end where a parenthesis follows them.
-/

namespace RecordGrid.Token

variable {c : Char} {cs rest : List Char}

theorem tokens_of_trimStart (htrim : Text.trimStart cs = c :: rest) :
    tokens cs = (scan c rest).1 :: tokens (scan c rest).2 := by
  rw [tokens]
  split
  · rename_i hnil
    rw [hnil] at htrim
    cases htrim
  · rename_i first later hcons
    rw [hcons] at htrim
    cases htrim
    rfl

theorem tokens_nil : tokens [] = [] := by
  rw [tokens]
  rfl

theorem tokens_cons (hc : Text.isBlank c = false) (cs : List Char) :
    tokens (c :: cs) = (scan c cs).1 :: tokens (scan c cs).2 := by
  refine tokens_of_trimStart ?_
  rw [Text.trimStart, List.dropWhile_cons_of_neg (by simp [hc])]

/-! ## Symbols -/

def symbolChars : List Char :=
  ['+', '-', '*', '/', '%', '(', ')', ',', '?', ':', '=', '!', '<', '>', '&', '|']

theorem scanSymbol?_eq_none_iff : scanSymbol? c cs = none ↔ c ∉ symbolChars := by
  unfold scanSymbol?
  split <;> simp_all [symbolChars]

theorem tokens_symbol (s : Symbol) (cs : List Char) :
    tokens (s.text.toList ++ '(' :: cs) = .symbol s :: tokens ('(' :: cs) := by
  cases s <;> exact tokens_cons rfl _

theorem tokens_leftParen (cs : List Char) :
    tokens ('(' :: cs) = .symbol .leftParen :: tokens cs := tokens_cons rfl cs

theorem tokens_rightParen (cs : List Char) :
    tokens (')' :: cs) = .symbol .rightParen :: tokens cs := tokens_cons rfl cs

theorem tokens_comma (cs : List Char) :
    tokens (',' :: cs) = .symbol .comma :: tokens cs := tokens_cons rfl cs

/-! ## Quoted texts -/

/-- The marks between which a text may stand. -/
inductive QuoteMark where
  | single
  | double
deriving DecidableEq, Repr

def QuoteMark.char : QuoteMark → Char
  | .single => '\''
  | .double => '"'

/-- The characters of a text with a backslash before each mark and backslash. -/
def escaped (mark : QuoteMark) : List Char → List Char
  | [] => []
  | c :: cs =>
      if c = mark.char ∨ c = '\\' then '\\' :: c :: escaped mark cs else c :: escaped mark cs

def quoted (mark : QuoteMark) (cs : List Char) : List Char :=
  mark.char :: (escaped mark cs ++ [mark.char])

theorem textRest?_escaped (mark : QuoteMark) (cs rest : List Char) :
    textRest? mark.char (escaped mark cs ++ mark.char :: rest) = some (cs, rest) := by
  induction cs with
  | nil => cases mark <;> simp [escaped, textRest?, QuoteMark.char]
  | cons c cs ih =>
      rw [escaped]
      split
      · rename_i hspecial
        have hitself : unescaped c = c := by
          rcases hspecial with rfl | rfl
          · cases mark <;> rfl
          · rfl
        rw [List.cons_append, List.cons_append, textRest?, ih, Option.map_some, hitself]
      · rename_i hplain
        obtain ⟨hmark, hbackslash⟩ := not_or.1 hplain
        rw [List.cons_append, textRest?, if_neg hmark, if_neg hbackslash, ih, Option.map_some]
        exact fun _ _ hc _ => hbackslash hc

theorem tokens_quoted (mark : QuoteMark) (cs rest : List Char) :
    tokens (quoted mark cs ++ rest) = .text (String.ofList cs) :: tokens rest := by
  have hscan : scan mark.char (escaped mark cs ++ mark.char :: rest) =
      (.text (String.ofList cs), rest) := by
    have hsymbol : scanSymbol? mark.char (escaped mark cs ++ mark.char :: rest) = none := by
      cases mark <;> rfl
    have hquote : (mark.char == '"' || mark.char == '\'') = true := by cases mark <;> rfl
    simp only [scan, hsymbol, hquote, if_true, scanText, textRest?_escaped]
  have hblank : Text.isBlank mark.char = false := by cases mark <;> rfl
  have hsplit : quoted mark cs ++ rest = mark.char :: (escaped mark cs ++ mark.char :: rest) := by
    simp only [quoted, List.cons_append, List.append_assoc, List.nil_append]
  rw [hsplit, tokens_cons hblank, hscan]

/-! ## Numbers and words -/

/-- Nothing follows, or a parenthesis: a number or a word before it ends there. -/
inductive Ends : List Char → Prop where
  | nothing : Ends []
  | leftParen (cs : List Char) : Ends ('(' :: cs)
  | rightParen (cs : List Char) : Ends (')' :: cs)

theorem numberRest_digits
    {ds : List Char} (hds : ∀ d ∈ ds, d.isDigit = true) (hrest : Ends rest) :
    numberRest false false false (ds ++ rest) = (ds, rest) := by
  induction ds with
  | nil => cases hrest <;> rfl
  | cons d ds ih =>
      rw [List.forall_mem_cons] at hds
      have hlater := ih hds.2
      simp only [List.cons_append, numberRest, Bool.false_and, Bool.false_eq_true, if_false, hds.1,
        if_true, hlater]

theorem tokens_digits (n : Nat) (hrest : Ends rest) :
    tokens (Number.digits n ++ rest) = .number (Float.ofNat n) :: tokens rest := by
  obtain ⟨d, ds, hdigits⟩ := Number.exists_digits_eq_cons n
  have hall : ∀ d ∈ Number.digits n, d.isDigit = true := fun d hd => Number.isDigit_of_mem_digits hd
  rw [hdigits, List.forall_mem_cons] at hall
  have hscan : scan d (ds ++ rest) = (.number (Float.ofNat n), rest) := by
    have hread : Number.read? (String.ofList (d :: ds)) = some (Float.ofNat n) :=
      hdigits ▸ Number.read?_digits n
    obtain ⟨hsymbol, hquote, hpoint⟩ :
        d ∉ symbolChars ∧ (d == '"' || d == '\'') = false ∧ (d == '.') = false :=
      Number.of_isDigit hall.1 (by decide)
    have hnone : scanSymbol? d (ds ++ rest) = none := scanSymbol?_eq_none_iff.2 hsymbol
    simp only [scan, hnone, hquote, hall.1, Bool.true_or, Bool.false_eq_true, if_false, if_true,
      scanNumber, hpoint, numberRest_digits hall.2 hrest, hread]
  have hblank : Text.isBlank d = false := Number.of_isDigit hall.1 (by decide)
  rw [hdigits, List.cons_append, tokens_cons hblank, hscan]

/-- Characters that the reader takes together as a word. -/
structure IsWord (c : Char) (cs : List Char) : Prop where
  blank : Text.isBlank c = false
  symbol : c ∉ symbolChars
  quote : (c == '"' || c == '\'') = false
  number : (c.isDigit || c == '.') = false
  starts : startsIdentifier c = true
  continues : cs.all continuesIdentifier = true

theorem continuesIdentifier_leftParen : continuesIdentifier '(' = false := by decide +kernel

theorem continuesIdentifier_rightParen : continuesIdentifier ')' = false := by decide +kernel

theorem Ends.word (hrest : Ends rest) :
    rest.takeWhile continuesIdentifier = [] ∧ rest.dropWhile continuesIdentifier = rest := by
  cases hrest with
  | nothing => exact ⟨rfl, rfl⟩
  | leftParen cs => simp [continuesIdentifier_leftParen]
  | rightParen cs => simp [continuesIdentifier_rightParen]

theorem tokens_word (hword : IsWord c cs) (hrest : Ends rest) :
    tokens (c :: cs ++ rest) = ofWord (String.ofList (c :: cs)) :: tokens rest := by
  have hcontinues : ∀ d ∈ cs, continuesIdentifier d = true := List.all_eq_true.1 hword.continues
  have htaken : (cs ++ rest).takeWhile continuesIdentifier = cs := by
    rw [List.takeWhile_append_of_pos hcontinues, hrest.word.1, List.append_nil]
  have hleft : (cs ++ rest).dropWhile continuesIdentifier = rest := by
    rw [List.dropWhile_append_of_pos hcontinues, hrest.word.2]
  have hscan : scan c (cs ++ rest) = (ofWord (String.ofList (c :: cs)), rest) := by
    simp only [scan, scanSymbol?_eq_none_iff.2 hword.symbol, hword.quote, hword.number,
      hword.starts, Bool.false_eq_true, if_false, if_true, htaken, hleft]
  rw [List.cons_append, tokens_cons hword.blank, hscan]

/-! ## Ids of fields -/

theorem eq_of_ofWord {word name : String} (hword : ofWord word = .identifier name) :
    word = name := by
  unfold ofWord at hword
  split at hword
  · cases hword
  · split at hword
    · cases hword
    · split at hword
      · cases hword
      · exact Token.identifier.inj hword

theorem scan_identifier {name : String} (hscan : (scan c cs).1 = .identifier name) :
    c ∉ symbolChars ∧ (c == '"' || c == '\'') = false ∧ (c.isDigit || c == '.') = false ∧
      startsIdentifier c = true ∧
      ofWord (String.ofList (c :: cs.takeWhile continuesIdentifier)) = .identifier name := by
  unfold scan at hscan
  split at hscan
  · rename_i result hsymbol
    unfold scanSymbol? at hsymbol
    split at hsymbol <;> cases hsymbol <;> cases hscan
  · rename_i hnone
    rw [scanSymbol?_eq_none_iff] at hnone
    split at hscan
    · unfold scanText at hscan
      split at hscan <;> cases hscan
    · rename_i hquote
      split at hscan
      · unfold scanNumber at hscan
        dsimp only at hscan
        split at hscan <;> cases hscan
      · rename_i hnumber
        split at hscan
        · rename_i hstarts
          exact ⟨hnone, by simpa using hquote, by simpa using hnumber, hstarts, hscan⟩
        · cases hscan

/-- A text that is read as one field id is a word that is no keyword. -/
theorem isWord_of_identifier
    {name : String} (hname : tokens name.toList = [.identifier name]) :
    ∃ c cs, name.toList = c :: cs ∧ IsWord c cs ∧ ofWord name = .identifier name := by
  cases htrim : Text.trimStart name.toList with
  | nil =>
      rw [tokens] at hname
      split at hname
      · cases hname
      · rename_i hcons
        rw [hcons] at htrim
        cases htrim
  | cons c cs =>
      rw [tokens_of_trimStart htrim] at hname
      obtain ⟨hsymbol, hquote, hnumber, hstarts, hofWord⟩ :=
        scan_identifier (List.cons.inj hname).1
      have hwhole : name.toList = c :: cs.takeWhile continuesIdentifier := by
        rw [← eq_of_ofWord hofWord, String.toList_ofList]
      -- neither a blank before the word nor anything behind it is left
      have hlength : (c :: cs).length ≤ name.toList.length := by
        rw [← htrim]
        exact (List.dropWhile_sublist _).length_le
      have htaken : cs.takeWhile continuesIdentifier = cs := by
        refine (List.takeWhile_sublist _).eq_of_length_le ?_
        rw [hwhole, List.length_cons, List.length_cons] at hlength
        omega
      have hblank : Text.isBlank c = false := by
        have hhead := List.head?_dropWhile_not Text.isBlank name.toList
        rw [Text.trimStart] at htrim
        rwa [htrim] at hhead
      have hcontinues : cs.all continuesIdentifier = true := by
        have hall : (cs.takeWhile continuesIdentifier).all continuesIdentifier = true :=
          List.all_takeWhile
        rwa [htaken] at hall
      rw [htaken] at hwhole hofWord
      refine ⟨c, cs, hwhole, ⟨hblank, hsymbol, hquote, hnumber, hstarts, hcontinues⟩, ?_⟩
      rwa [← hwhole, String.ofList_toList] at hofWord

end RecordGrid.Token
