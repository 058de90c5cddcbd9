import Mathlib.Data.List.DropRight
import Mathlib.Tactic.SplitIfs
import RecordGrid.Expr.Parse
import RecordGrid.Proofs.Expr.Lexeme

/-!
# Blanks around expressions

A blank goes on with no token but a quoted text, so what is scanned before one
is scanned the same whatever comes after it.  The tokens of a text are therefore
those of the text without the blanks at its ends, and so is the expression that
is read from it; and two texts with blanks between them keep their own tokens.
-/

namespace RecordGrid

namespace Text

/-- The blanks that trimming takes from the end stand behind what is left. -/
theorem exists_trimStart_eq (cs : List Char) :
    ∃ blanks, (∀ b ∈ blanks, isBlank b = true) ∧ trimStart cs = trimmed cs ++ blanks := by
  have hsplit : ((trimStart cs).reverse.takeWhile isBlank ++ trimStart (trimStart cs).reverse) =
      (trimStart cs).reverse := List.takeWhile_append_dropWhile
  refine ⟨((trimStart cs).reverse.takeWhile isBlank).reverse, ?_, ?_⟩
  · intro b hb
    exact List.all_eq_true.1 List.all_takeWhile b (List.mem_reverse.1 hb)
  · rw [trimmed, ← List.reverse_append, hsplit, List.reverse_reverse]

end Text

namespace Token

variable {b c quote : Char} {cs blanks rest s left : List Char}

/-! ## What ends at a blank -/

def blankChars : List Char :=
  (Text.blankRanges.flatMap fun r => List.range' r.1 (r.2 + 1 - r.1)).map Char.ofNat

/-- What is checked of every blank on its own holds of all of them. -/
theorem of_isBlank
    (hb : Text.isBlank b = true) {P : Char → Bool} (hall : blankChars.all P = true) :
    P b = true := by
  simp only [Text.isBlank, Text.inRanges, List.any_eq_true, Bool.and_eq_true,
    decide_eq_true_eq] at hb
  obtain ⟨r, hr, hfrom, hto⟩ := hb
  have hcode : b.toNat ∈ List.range' r.1 (r.2 + 1 - r.1) := List.mem_range'_1.2 ⟨hfrom, by omega⟩
  refine List.all_eq_true.1 hall b (List.mem_map.2 ⟨b.toNat, ?_, Char.ofNat_toNat b⟩)
  exact List.mem_flatMap.2 ⟨r, hr, hcode⟩

/-- No range of letters meets one of blanks. -/
theorem isLetter_blank (hb : Text.isBlank b = true) : Text.isLetter b = false := by
  have hapart : Text.letterRanges.all (fun l =>
      Text.blankRanges.all fun r => decide (l.2 < r.1) || decide (r.2 < l.1)) = true := by
    decide +kernel
  rw [Bool.eq_false_iff]
  intro hletter
  simp only [Text.isBlank, Text.isLetter, Text.inRanges, List.any_eq_true, Bool.and_eq_true,
    decide_eq_true_eq] at hb hletter
  obtain ⟨r, hr, hfrom, hto⟩ := hb
  obtain ⟨l, hl, hfrom', hto'⟩ := hletter
  have hlr := List.all_eq_true.1 (List.all_eq_true.1 hapart l hl) r hr
  simp only [Bool.or_eq_true, decide_eq_true_eq] at hlr
  omega

theorem continuesIdentifier_blank (hb : Text.isBlank b = true) :
    continuesIdentifier b = false := by
  have hplain := of_isBlank (P := fun b => !(b == '_' || b == '$' || b.isDigit)) hb (by decide)
  simp only [continuesIdentifier, startsIdentifier, isLetter_blank hb, Bool.false_or]
  simpa using hplain

theorem numberRest_blank
    (hb : Text.isBlank b = true) (point exponent sign : Bool) (rest : List Char) :
    numberRest point exponent sign (b :: rest) = ([], b :: rest) := by
  have hplain := of_isBlank hb
    (P := fun b => !(b == '+' || b == '-') && !b.isDigit && !(b == '.') && !(b == 'e' || b == 'E'))
    (by decide)
  simp only [Bool.and_eq_true, Bool.not_eq_true'] at hplain
  obtain ⟨⟨⟨hsign, hdigit⟩, hpoint⟩, hexponent⟩ := hplain
  simp only [numberRest, hsign, hdigit, hpoint, hexponent, Bool.and_false, Bool.false_and,
    Bool.false_eq_true, if_false]

theorem numberRest_append
    (hb : Text.isBlank b = true) (point exponent sign : Bool) (cs rest : List Char) :
    numberRest point exponent sign (cs ++ b :: rest) =
      ((numberRest point exponent sign cs).1,
        (numberRest point exponent sign cs).2 ++ b :: rest) := by
  induction cs generalizing point exponent sign with
  | nil => exact numberRest_blank hb point exponent sign rest
  | cons c cs ih =>
      simp only [List.cons_append, numberRest, ih]
      split_ifs <;> rfl

theorem word_append
    (hb : Text.isBlank b = true) (cs rest : List Char) :
    (cs ++ b :: rest).takeWhile continuesIdentifier = cs.takeWhile continuesIdentifier ∧
      (cs ++ b :: rest).dropWhile continuesIdentifier =
        cs.dropWhile continuesIdentifier ++ b :: rest := by
  have hend := continuesIdentifier_blank hb
  induction cs with
  | nil => simp [hend]
  | cons c cs ih =>
      cases hc : continuesIdentifier c <;> simp [hc, ih]

theorem scanSymbol?_append
    (hb : Text.isBlank b = true) (c : Char) (cs rest : List Char) :
    scanSymbol? c (cs ++ b :: rest) =
      (scanSymbol? c cs).map fun scanned => (scanned.1, scanned.2 ++ b :: rest) := by
  have hnot := of_isBlank (P := fun b => !symbolChars.contains b) hb (by decide)
  -- a symbol of several characters ends before the blank, which is none of them
  fun_cases scanSymbol? c cs <;>
    simp_all [scanSymbol?, symbolChars, List.append_eq_cons_iff]

/-! ## Quoted texts -/

theorem textRest?_cons (hc : c ≠ '\\') (cs : List Char) :
    textRest? quote (c :: cs) =
      if c = quote then some ([], cs)
      else (textRest? quote cs).map fun (s, rest) => (c :: s, rest) := by
  rw [textRest?, if_neg hc]
  exact fun _ _ hback _ => hc hback

theorem textRest?_backslash (hquote : '\\' ≠ quote) : textRest? quote ['\\'] = none := by
  simp [textRest?, hquote]

theorem textRest?_append
    (hquote : quote ≠ '\\') (hread : textRest? quote cs = some (s, left)) (rest : List Char) :
    textRest? quote (cs ++ rest) = some (s, left ++ rest) := by
  fun_induction textRest? quote cs generalizing s left with
  | case1 => cases hread
  | case2 c cs ih =>
      obtain ⟨⟨t, r⟩, hr, he⟩ := Option.map_eq_some_iff.1 hread
      cases he
      simp only [List.cons_append, textRest?, ih hr, Option.map_some]
  | case3 cs =>
      cases hread
      rw [List.cons_append, textRest?_cons hquote, if_pos rfl]
  | case4 => cases hread
  | case5 c cs _ hother hplain ih =>
      obtain ⟨⟨t, r⟩, hr, he⟩ := Option.map_eq_some_iff.1 hread
      cases he
      rw [List.cons_append, textRest?_cons hplain, if_neg hother, ih hr, Option.map_some]

theorem textRest?_eq_none (hplain : ∀ d ∈ cs, d ≠ quote ∧ d ≠ '\\') :
    textRest? quote cs = none := by
  induction cs with
  | nil => rfl
  | cons d cs ih =>
      obtain ⟨⟨hquote, hback⟩, hrest⟩ := List.forall_mem_cons.1 hplain
      rw [textRest?_cons hback, if_neg hquote, ih hrest, Option.map_none]

/-- A text that is not closed is not closed by what has no closing mark. -/
theorem textRest?_append_eq_none
    (hopen : textRest? quote cs = none) (hplain : ∀ d ∈ rest, d ≠ quote ∧ d ≠ '\\') :
    textRest? quote (cs ++ rest) = none := by
  fun_induction textRest? quote cs with
  | case1 => exact textRest?_eq_none hplain
  | case2 c cs ih =>
      rw [List.cons_append, List.cons_append, textRest?, ih (Option.map_eq_none_iff.1 hopen),
        Option.map_none]
  | case3 cs => cases hopen
  | case4 cs hlast hquote =>
      -- a backslash at the very end takes the first character of what comes next
      cases cs with
      | cons next cs => exact (hlast next cs rfl rfl).elim
      | nil =>
          cases rest with
          | nil => exact textRest?_backslash hquote
          | cons d rest =>
              have hrest := (List.forall_mem_cons.1 hplain).2
              rw [List.singleton_append, textRest?, textRest?_eq_none hrest, Option.map_none]
  | case5 c cs _ hother hback ih =>
      rw [List.cons_append, textRest?_cons hback, if_neg hother,
        ih (Option.map_eq_none_iff.1 hopen), Option.map_none]

/-! ## Tokens -/

/-- A text that lacks its closing mark. -/
def IsOpen (c : Char) (cs : List Char) : Prop :=
  (c = '"' ∨ c = '\'') ∧ textRest? c cs = none

theorem scan_of_isOpen (hopen : IsOpen c cs) : scan c cs = (.illegal c, []) := by
  obtain ⟨hquote, hread⟩ := hopen
  have hsymbol : scanSymbol? c cs = none := by
    rw [scanSymbol?_eq_none_iff]
    rcases hquote with rfl | rfl <;> decide
  have hmark : (c == '"' || c == '\'') = true := by simpa using hquote
  simp only [scan, hsymbol, hmark, if_true, scanText, hread]

/-- A token ends before a blank, unless it is a text without its closing mark. -/
theorem scan_append
    (hb : Text.isBlank b = true) (hclosed : ¬IsOpen c cs) (rest : List Char) :
    scan c (cs ++ b :: rest) = ((scan c cs).1, (scan c cs).2 ++ b :: rest) := by
  unfold scan
  rw [scanSymbol?_append hb]
  cases hsymbol : scanSymbol? c cs with
  | some scanned => rfl
  | none =>
      simp only [Option.map_none]
      split
      · rename_i hquote
        have hmark : c = '"' ∨ c = '\'' := by simpa using hquote
        obtain ⟨⟨s, left⟩, hread⟩ : ∃ read, textRest? c cs = some read :=
          Option.ne_none_iff_exists'.1 fun hnone => hclosed ⟨hmark, hnone⟩
        have hback : c ≠ '\\' := by rcases hmark with rfl | rfl <;> decide
        simp only [scanText, hread, textRest?_append hback hread]
      · split
        · simp only [scanNumber, numberRest_append hb]
          split <;> rfl
        · split
          · simp only [word_append hb]
          · rfl

theorem tokens_of_blank (htrim : Text.trimStart cs = []) : tokens cs = [] := by
  rw [tokens]
  split
  · rfl
  · rename_i hcons
    rw [hcons] at htrim
    cases htrim

theorem tokens_append_blanks
    (hblanks : ∀ b ∈ blanks, Text.isBlank b = true) (cs : List Char) :
    tokens (cs ++ blanks) = tokens cs := by
  have hplain : ∀ d ∈ blanks, d ∉ ['"', '\'', '\\'] := by
    intro d hd
    have hnot := of_isBlank (P := fun b => not (List.contains ['"', '\'', '\\'] b)) (hblanks d hd)
      (by decide)
    simpa using hnot
  fun_induction tokens cs with
  | case1 cs htrim =>
      refine tokens_of_blank ?_
      rw [Text.trimStart] at htrim ⊢
      rw [List.dropWhile_append, htrim]
      exact List.dropWhile_eq_nil_iff.2 hblanks
  | case2 cs c rest htrim ih =>
      have htrim' : Text.trimStart (cs ++ blanks) = c :: (rest ++ blanks) := by
        rw [Text.trimStart] at htrim ⊢
        rw [List.dropWhile_append, htrim]
        rfl
      rw [tokens_of_trimStart htrim']
      cases blanks with
      | nil => rw [List.append_nil]
      | cons b blanks =>
          by_cases hopen : IsOpen c rest
          · have hopen' : IsOpen c (rest ++ b :: blanks) := by
              refine ⟨hopen.1, textRest?_append_eq_none hopen.2 fun d hd => ?_⟩
              have hd := hplain d hd
              rcases hopen.1 with rfl | rfl <;> simp_all
            rw [scan_of_isOpen hopen, scan_of_isOpen hopen']
          · rw [scan_append (hblanks b (List.mem_cons_self ..)) hopen, ih]

theorem tokens_trimStart (cs : List Char) : tokens (Text.trimStart cs) = tokens cs := by
  cases htrim : Text.trimStart cs with
  | nil => rw [tokens_of_blank htrim, tokens_nil]
  | cons c rest =>
      have hagain : Text.trimStart (c :: rest) = c :: rest := by
        rw [← htrim, Text.trimStart, Text.trimStart, List.dropWhile_idempotent]
      rw [tokens_of_trimStart htrim, tokens_of_trimStart hagain]

theorem tokens_blanks_append
    (hblanks : ∀ b ∈ blanks, Text.isBlank b = true) (cs : List Char) :
    tokens (blanks ++ cs) = tokens cs := by
  rw [← tokens_trimStart, Text.trimStart, List.dropWhile_append_of_pos hblanks]
  exact tokens_trimStart cs

theorem tokens_trimmed (cs : List Char) : tokens (Text.trimmed cs) = tokens cs := by
  obtain ⟨blanks, hblanks, hsplit⟩ := Text.exists_trimStart_eq cs
  rw [← tokens_trimStart cs, hsplit, tokens_append_blanks hblanks]

/-! ## Texts with blanks between them -/

/-- A blank parts what stands before it from what comes after, unless a quoted text
reaches across.  No other illegal character reads on past a blank. -/
theorem tokens_append_blank
    (hb : Text.isBlank b = true)
    (hclosed : ∀ mark, mark = '"' ∨ mark = '\'' → .illegal mark ∉ tokens cs)
    (rest : List Char) :
    tokens (cs ++ b :: rest) = tokens cs ++ tokens (b :: rest) := by
  fun_induction tokens cs with
  | case1 cs htrim =>
      have hblanks : ∀ d ∈ cs, Text.isBlank d = true := List.dropWhile_eq_nil_iff.1 htrim
      exact tokens_blanks_append hblanks _
  | case2 cs c left htrim ih =>
      have htrim' : Text.trimStart (cs ++ b :: rest) = c :: (left ++ b :: rest) := by
        rw [Text.trimStart] at htrim ⊢
        rw [List.dropWhile_append, htrim]
        rfl
      have hnotopen : ¬IsOpen c left := by
        intro hopen
        refine hclosed c hopen.1 ?_
        rw [scan_of_isOpen hopen]
        exact List.mem_cons_self ..
      have hlater := ih fun mark hmark hmem => hclosed mark hmark (List.mem_cons_of_mem _ hmem)
      rw [tokens_of_trimStart htrim', scan_append hb hnotopen, hlater, List.cons_append]

/-- Two texts with blanks between them have the tokens of the first and then those
of the second, where the first has no illegal token: nothing is scanned across a
blank, and a word that goes on behind it is another word. -/
theorem blanks_part_tokens
    {s w : String} (hlegal : ∀ c, .illegal c ∉ tokens s.toList)
    (hw : w ≠ "") (hblank : Text.allBlank w = true) (t : String) :
    tokens (s ++ w ++ t).toList = tokens s.toList ++ tokens t.toList := by
  have hblanks : ∀ b ∈ w.toList, Text.isBlank b = true := List.all_eq_true.1 hblank
  obtain ⟨b, later, hcons⟩ : ∃ b later, w.toList = b :: later :=
    List.exists_cons_of_ne_nil fun hnil => hw (String.toList_eq_nil_iff.1 hnil)
  have hsplit : (s ++ w ++ t).toList = s.toList ++ b :: (later ++ t.toList) := by
    rw [String.toList_append, String.toList_append, hcons, List.append_assoc, List.cons_append]
  have hspaced : b :: (later ++ t.toList) = w.toList ++ t.toList := by
    rw [hcons, List.cons_append]
  rw [hcons] at hblanks
  rw [hsplit, tokens_append_blank (hblanks b (List.mem_cons_self ..)) fun mark _ => hlegal mark,
    hspaced, tokens_blanks_append (hcons ▸ hblanks)]

/-- The `!` before the blanks and the `=` behind them stay two tokens, although the
second text is no good. -/
theorem blanks_part_tokens_of_negation :
    (∀ c, .illegal c ∉ tokens "(!".toList) ∧ " \t" ≠ "" ∧ Text.allBlank " \t" = true ∧
      tokens ("(!" ++ " \t" ++ "=')").toList =
        [.symbol .leftParen, .symbol .bang, .illegal '=', .illegal '\''] := by
  have hfirst : tokens "(!".toList = [.symbol .leftParen, .symbol .bang] := by
    rw [show "(!".toList = ['(', '!'] from rfl, tokens_leftParen, tokens_cons rfl]
    exact congrArg (_ :: _ :: ·) tokens_nil
  have hsecond : tokens "=')".toList = [.illegal '=', .illegal '\''] := by
    rw [show "=')".toList = ['=', '\'', ')'] from rfl, tokens_cons rfl]
    refine congrArg (_ :: ·) ((tokens_cons rfl _).trans ?_)
    exact congrArg (_ :: ·) tokens_nil
  have hlegal : ∀ c, .illegal c ∉ tokens "(!".toList := by
    rw [hfirst]
    simp
  have hblank : Text.allBlank " \t" = true := by decide
  refine ⟨hlegal, by decide, hblank, ?_⟩
  rw [blanks_part_tokens hlegal (by decide) hblank, hfirst, hsecond]
  rfl

end Token

/-- The blanks at the ends of a text make no difference to what is read. -/
theorem Expr.parse_trim (text : String) : parse (Text.trim text) = parse text := by
  rw [parse, parse, Text.trim, String.toList_ofList, Token.tokens_trimmed]

end RecordGrid
