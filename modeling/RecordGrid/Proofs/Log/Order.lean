import Mathlib.Data.List.Nodup
import Mathlib.Logic.Relation
import RecordGrid.Proofs.Log.Lines
import RecordGrid.Proofs.Number.Whole

/-!
# A log in the order of the calls

Whoever writes to a log first takes a number and then puts the line into the
file, so that lines of several callers may get there in any order.  Sorting puts
them into the order of the numbers.  It keeps every call on a line of its own as
long as each is one line to begin with: the parts of a message with a line break
are sorted apart.
-/

namespace RecordGrid.Log

/-- What somebody has to tell. -/
structure Message where
  level : String
  category : String
  text : String
deriving DecidableEq, Repr

namespace Message

def lineAt (m : Message) (number : Nat) : String := entry number m.level m.category m.text

/-- Nothing in the message ends its line. -/
structure StaysOnLine (m : Message) : Prop where
  level : '\n' ∉ m.level.toList
  category : '\n' ∉ m.category.toList
  text : '\n' ∉ m.text.toList
  ending : m.text.toList.getLast? ≠ some '\r'

end Message

/-- The lines of calls, numbered in their order from the first free number on. -/
def linesAfter : (issued : Nat) → List Message → List String
  | _, [] => []
  | issued, m :: rest => m.lineAt (issued + 1) :: linesAfter (issued + 1) rest

variable {opened l : Log} {calls : List Message} {waiting : List String} {m : Message}

/-! ## The number of a line -/

theorem toList_lineAt (m : Message) (number : Nat) :
    (m.lineAt number).toList =
      Number.digits number ++
        '|' :: (m.level.toList ++ '|' :: (m.category.toList ++ '|' :: m.text.toList)) := by
  have hbar : "|".toList = ['|'] := rfl
  have hnumber : (toString number).toList = Number.digits number := Nat.toList_repr
  simp only [Message.lineAt, entry, String.toList_append, hbar, hnumber, List.append_assoc,
    List.cons_append, List.nil_append]

theorem isLine_lineAt_iff (m : Message) (number : Nat) :
    IsLine (m.lineAt number) ↔ m.StaysOnLine := by
  have hdigits : '\n' ∉ Number.digits number := fun hmem =>
    absurd (Number.isDigit_of_mem_digits hmem) (by decide)
  have hending : (m.lineAt number).toList.getLast? = some '\r' ↔
      m.text.toList.getLast? = some '\r' := by
    rw [toList_lineAt]
    cases htext : m.text.toList.getLast? with
    | none => simp [List.getLast?_append, List.getLast?_cons, htext]
    | some c => simp [List.getLast?_append, List.getLast?_cons, htext]
  have hbreak : '\n' ∉ (m.lineAt number).toList ↔
      '\n' ∉ m.level.toList ∧ '\n' ∉ m.category.toList ∧ '\n' ∉ m.text.toList := by
    simp [toList_lineAt, hdigits]
  rw [IsLine, hbreak, ne_eq, hending]
  constructor
  · rintro ⟨⟨hlevel, hcategory, htext⟩, hend⟩
    exact ⟨hlevel, hcategory, htext, hend⟩
  · rintro ⟨hlevel, hcategory, htext, hend⟩
    exact ⟨⟨hlevel, hcategory, htext⟩, hend⟩

theorem numberOf?_digits (number : Nat) : numberOf? (Number.digits number) = some number := by
  obtain ⟨c, cs, hdigits⟩ := Number.exists_digits_eq_cons number
  have hall : ∀ d ∈ Number.digits number, d.isDigit = true :=
    fun d hd => Number.isDigit_of_mem_digits hd
  have hplus : c ≠ '+' := by
    rintro rfl
    exact absurd (hall '+' (hdigits ▸ List.mem_cons_self ..)) (by decide)
  have hvalue := Number.digitsValue_digits number
  have hsum : (c :: cs).foldl (fun n d => n * 10 + (d.toNat - '0'.toNat)) 0 = number := by
    rw [hdigits] at hvalue
    simpa only [Number.digitsValue, Nat.mul_comm 10] using hvalue
  rw [hdigits] at hall ⊢
  unfold numberOf?
  split
  · rename_i hsame
    exact absurd (List.cons.inj hsame).1 hplus
  · have hwhole : (c :: cs).all Char.isDigit = true := List.all_eq_true.2 hall
    simp only [List.isEmpty_cons, hwhole, Bool.not_true, Bool.or_self, Bool.false_eq_true,
      if_false, hsum]

/-- The key of a line is the number of its call. -/
theorem keyOf_lineAt {number : Nat} (hfits : number ≤ greatest) (m : Message) :
    keyOf (m.lineAt number) = number := by
  have hdigits : ∀ d ∈ Number.digits number, decide (d ≠ '|') = true := by
    rintro d hd
    rw [decide_eq_true_eq]
    rintro rfl
    exact absurd (Number.isDigit_of_mem_digits hd) (by decide)
  have hkey : (m.lineAt number).toList.takeWhile (fun c => decide (c ≠ '|')) =
      Number.digits number := by
    rw [toList_lineAt, List.takeWhile_append_of_pos hdigits]
    simp
  simp only [keyOf, hkey, numberOf?_digits, hfits, if_true]

/-- A line with a number is not blank. -/
theorem not_allBlank_of_digits {line : String} {number : Nat} {rest : List Char}
    (hline : line.toList = Number.digits number ++ rest) :
    Text.allBlank line = false := by
  obtain ⟨c, cs, hdigits⟩ := Number.exists_digits_eq_cons number
  have hdigit : c.isDigit = true :=
    Number.isDigit_of_mem_digits (hdigits ▸ List.mem_cons_self ..)
  have hfirst : Text.isBlank c = false :=
    Number.of_isDigit (P := fun c => Text.isBlank c = false) hdigit (by decide)
  simp [Text.allBlank, hline, hdigits, hfirst]

/-! ## Lines under way -/

/-- A log with the calls that have been made, and the lines that have not
reached the file yet. -/
structure Progress where
  calls : List Message
  waiting : List String
  log : Log

namespace Progress

def start (opened : Log) : Progress := ⟨[], [], opened⟩

/-- A call takes a number, or one of the waiting lines gets into the file. -/
inductive Step : Progress → Progress → Prop where
  | call (p : Progress) (m : Message) :
      Step p
        ⟨p.calls ++ [m], p.waiting ++ [m.lineAt (p.log.issued + 1)],
          { p.log with issued := p.log.issued + 1 }⟩
  | land (calls : List Message) (before : List String) (line : String) (after : List String)
      (l : Log) :
      Step ⟨calls, before ++ line :: after, l⟩ ⟨calls, before ++ after, l.writeRaw line⟩

abbrev Steps : Progress → Progress → Prop := Relation.ReflTransGen Step

variable {p q : Progress}

/-- Writing to the log, where nobody comes in between. -/
theorem steps_write (p : Progress) (m : Message) :
    Steps p ⟨p.calls ++ [m], p.waiting, p.log.write m.level m.category m.text⟩ := by
  have hland := Step.land (p.calls ++ [m]) p.waiting (m.lineAt (p.log.issued + 1)) []
    { p.log with issued := p.log.issued + 1 }
  rw [List.append_nil] at hland
  exact (Relation.ReflTransGen.single (.call p m)).tail hland

theorem linesAfter_append_singleton (issued : Nat) (calls : List Message) (m : Message) :
    linesAfter issued (calls ++ [m]) =
      linesAfter issued calls ++ [m.lineAt (issued + calls.length + 1)] := by
  induction calls generalizing issued with
  | nil => rfl
  | cons first rest ih =>
      rw [List.cons_append, linesAfter, linesAfter, ih, List.length_cons, List.cons_append]
      congr 4
      omega

theorem textOf_append_singleton (lines : List String) (line : String) :
    textOf (lines ++ [line]) = textOf lines ++ line ++ "\n" := by
  rw [← String.toList_inj]
  simp [toList_textOf]

/-- Every call has its line, in the file or on the way there, and the file holds
nothing else. -/
structure Accounted (opened : Log) (p : Progress) : Prop where
  issued : p.log.issued = opened.issued + p.calls.length
  lines : ∃ landed,
    p.log.file = some (textOf landed) ∧
      (landed ++ p.waiting).Perm (linesAfter opened.issued p.calls)

theorem Accounted.step (hp : p.Accounted opened) (hstep : Step p q) : q.Accounted opened := by
  cases hstep with
  | call p m =>
      obtain ⟨hissued, landed, hfile, hlines⟩ := hp
      refine ⟨?_, landed, hfile, ?_⟩
      · simp only [hissued, List.length_append, List.length_singleton]
        omega
      · rw [linesAfter_append_singleton, hissued, ← List.append_assoc]
        exact hlines.append_right _
  | land calls before line after l =>
      obtain ⟨hissued, landed, hfile, hlines⟩ := hp
      refine ⟨hissued, landed ++ [line], ?_, ?_⟩
      · rw [writeRaw, hfile, Option.map_some, textOf_append_singleton]
      · have hmoved : (landed ++ [line] ++ (before ++ after)).Perm
            (landed ++ (before ++ line :: after)) := by
          rw [List.append_assoc, List.singleton_append]
          exact List.perm_middle.symm.append_left landed
        exact hmoved.trans hlines

theorem Accounted.steps (hp : p.Accounted opened) (hsteps : Steps p q) : q.Accounted opened := by
  induction hsteps with
  | refl => exact hp
  | tail _ hstep ih => exact ih.step hstep

theorem accounted_start (hempty : opened.file = some "") : (start opened).Accounted opened :=
  ⟨rfl, [], hempty, List.Perm.refl _⟩

/-- Whatever the order, the waiting lines can get into the file in it. -/
theorem steps_land (calls : List Message) (l : Log) {waiting landed : List String}
    (horder : landed.Perm waiting) :
    Steps ⟨calls, waiting, l⟩
      ⟨calls, [], landed.foldl (fun l line => l.writeRaw line) l⟩ := by
  induction landed generalizing waiting l with
  | nil =>
      rw [← horder.nil_eq]
      exact .refl
  | cons line rest ih =>
      obtain ⟨before, after, rfl⟩ := List.append_of_mem (horder.subset (List.mem_cons_self ..))
      have hrest : rest.Perm (before ++ after) := (horder.trans List.perm_middle).cons_inv
      exact Relation.ReflTransGen.head (.land calls before line after l)
        (ih (l.writeRaw line) hrest)

end Progress

/-! ## Sorting -/

theorem sort_eq {content : String} (hfile : l.file = some content) :
    l.sort =
      .ok ((sortedLines content).length,
        { l with file := some (textOf (sortedLines content)) }) := by
  simp only [sort, hfile, textOf]

theorem sortedLines_perm (content : String) :
    (sortedLines content).Perm ((linesOf content).filter fun line => !Text.allBlank line) :=
  List.mergeSort_perm ..

theorem keyOrder_trans (a b c : String) (hab : decide (keyOf a ≤ keyOf b) = true)
    (hbc : decide (keyOf b ≤ keyOf c) = true) : decide (keyOf a ≤ keyOf c) = true := by
  rw [decide_eq_true_eq] at *
  exact Nat.le_trans hab hbc

theorem keyOrder_total (a b : String) :
    (decide (keyOf a ≤ keyOf b) || decide (keyOf b ≤ keyOf a)) = true := by
  rw [Bool.or_eq_true, decide_eq_true_eq, decide_eq_true_eq]
  exact Nat.le_total ..

theorem pairwise_sortedLines (content : String) :
    (sortedLines content).Pairwise fun a b => keyOf a ≤ keyOf b :=
  (List.pairwise_mergeSort keyOrder_trans keyOrder_total _).imp fun hab => of_decide_eq_true hab

/-- The lines that are not blank, once they are in the order of their numbers. -/
theorem sortedLines_eq
    {content : String} {lines : List String}
    (hlines : ((linesOf content).filter fun line => !Text.allBlank line).Perm lines)
    (hordered : lines.Pairwise fun a b => keyOf a < keyOf b) :
    sortedLines content = lines := by
  have hperm : (sortedLines content).Perm lines := (sortedLines_perm content).trans hlines
  have hdistinct : (lines.map keyOf).Nodup := List.pairwise_map.2 (hordered.imp Nat.ne_of_lt)
  -- no two lines have one number, so there is only one order
  refine hperm.eq_of_pairwise (fun a b ha hb hab hba => ?_) (pairwise_sortedLines content)
    (hordered.imp Nat.le_of_lt)
  exact List.inj_on_of_nodup_map hdistinct (hperm.subset ha) hb (Nat.le_antisymm hab hba)

theorem keys_linesAfter {issued : Nat} (hfits : issued + calls.length ≤ greatest) :
    (linesAfter issued calls).map keyOf = List.range' (issued + 1) calls.length := by
  induction calls generalizing issued with
  | nil => rfl
  | cons m rest ih =>
      rw [List.length_cons] at hfits ⊢
      rw [linesAfter, List.map_cons, keyOf_lineAt (by omega), ih (by omega), List.range'_succ]

theorem length_linesAfter (issued : Nat) (calls : List Message) :
    (linesAfter issued calls).length = calls.length := by
  induction calls generalizing issued with
  | nil => rfl
  | cons m rest ih => rw [linesAfter, List.length_cons, List.length_cons, ih]

theorem mem_linesAfter {issued : Nat} {line : String} (hline : line ∈ linesAfter issued calls) :
    ∃ m ∈ calls, ∃ number, line = m.lineAt number := by
  induction calls generalizing issued with
  | nil => cases hline
  | cons first rest ih =>
      rcases List.mem_cons.1 hline with rfl | hline
      · exact ⟨first, List.mem_cons_self .., _, rfl⟩
      · obtain ⟨m, hm, number, hnumber⟩ := ih hline
        exact ⟨m, List.mem_cons_of_mem _ hm, number, hnumber⟩

theorem exists_lineAt_mem_linesAfter (issued : Nat) (hm : m ∈ calls) :
    ∃ number, m.lineAt number ∈ linesAfter issued calls := by
  induction calls generalizing issued with
  | nil => cases hm
  | cons first rest ih =>
      rcases List.mem_cons.1 hm with rfl | hm
      · exact ⟨_, List.mem_cons_self ..⟩
      · obtain ⟨number, hnumber⟩ := ih (issued + 1) hm
        exact ⟨number, List.mem_cons_of_mem _ hnumber⟩

/-- Calls that stay on their lines are sorted into the order in which they were
made. -/
theorem sortedLines_of_staysOnLine
    {issued : Nat} {landed : List String} (hfits : issued + calls.length ≤ greatest)
    (hlanded : landed.Perm (linesAfter issued calls)) (hcalls : ∀ m ∈ calls, m.StaysOnLine) :
    sortedLines (textOf landed) = linesAfter issued calls := by
  have hkeys := keys_linesAfter hfits
  have hlines : ∀ line ∈ landed, IsLine line ∧ Text.allBlank line = false := by
    intro line hline
    obtain ⟨m, hm, number, rfl⟩ := mem_linesAfter (hlanded.subset hline)
    exact ⟨(isLine_lineAt_iff m number).2 (hcalls m hm),
      not_allBlank_of_digits (toList_lineAt m number)⟩
  have hread : ((linesOf (textOf landed)).filter fun line => !Text.allBlank line) = landed := by
    rw [linesOf_textOf_of_isLine fun line hline => (hlines line hline).1, List.filter_eq_self]
    intro line hline
    rw [(hlines line hline).2, Bool.not_false]
  refine sortedLines_eq (by rw [hread]; exact hlanded) ?_
  rw [← List.pairwise_map (f := keyOf), hkeys]
  exact List.pairwise_lt_range'

/-- Where sorting gives back as many lines and the same text as there were lines
before, these were lines. -/
theorem isLine_of_sortedLines
    {lines landed : List String} (hlanded : landed.Perm lines)
    (hcount : (sortedLines (textOf landed)).length = lines.length)
    (htext : textOf (sortedLines (textOf landed)) = textOf lines) :
    ∀ line ∈ lines, IsLine line := by
  have hbreaks : ∀ line ∈ lines, '\n' ∉ line.toList := by
    refine newline_not_mem_of_textOf (fun line hline => ?_) hcount htext
    exact newline_not_mem_linesOf (List.mem_filter.1 ((sortedLines_perm _).subset hline)).1
  -- as many lines as there were, so no blank one has been left out
  have hperm : (sortedLines (textOf landed)).Perm (landed.map readBack) := by
    have hkept := sortedLines_perm (textOf landed)
    rw [linesOf_textOf_of_not_mem fun line hline => hbreaks line (hlanded.subset hline)] at hkept
    have hlength := hkept.length_eq
    rw [hcount, ← hlanded.length_eq] at hlength
    rwa [(List.filter_sublist).eq_of_length (by rw [← hlength, List.length_map])] at hkept
  have hlength : ((landed.map readBack).map String.length).sum =
      (landed.map String.length).sum := by
    have hboth := length_textOf (sortedLines (textOf landed))
    rw [htext, length_textOf, hcount, (hperm.map String.length).sum_nat,
      ← (hlanded.map String.length).sum_nat] at hboth
    exact (Nat.add_left_cancel hboth).symm
  intro line hline
  exact ⟨hbreaks line hline,
    getLast?_ne_of_length_readBack hlength line (hlanded.symm.subset hline)⟩

/-- However the lines of calls come into an empty file, sorting leaves one line for
each call, as it was written and in the order of the calls, exactly if every
message stays on its line.  The bound is the greatest number of 64 bits. -/
theorem sorted_log_keeps_calls_iff
    (hempty : opened.file = some "")
    (hwritten : Progress.Steps (.start opened) ⟨calls, [], l⟩)
    (hfits : opened.issued + calls.length ≤ greatest) :
    (∃ sorted, l.sort = .ok (calls.length, sorted) ∧
        sorted.file = some (textOf (linesAfter opened.issued calls))) ↔
      ∀ m ∈ calls, m.StaysOnLine := by
  obtain ⟨-, landed, hfile, hlanded⟩ := (Progress.accounted_start hempty).steps hwritten
  rw [List.append_nil] at hlanded
  simp only at hfile hlanded
  rw [sort_eq hfile]
  constructor
  · rintro ⟨sorted, hsorted, htext⟩
    obtain ⟨hcount, rfl⟩ := Prod.mk.inj (Except.ok.inj hsorted)
    have hlines := isLine_of_sortedLines hlanded
      (by rw [length_linesAfter]; exact hcount) (Option.some.inj htext)
    intro m hm
    obtain ⟨number, hnumber⟩ := exists_lineAt_mem_linesAfter opened.issued hm
    exact (isLine_lineAt_iff m number).1 (hlines _ hnumber)
  · intro hcalls
    rw [sortedLines_of_staysOnLine hfits hlanded hcalls, length_linesAfter]
    exact ⟨_, rfl, rfl⟩

/-- Two lines of which the later one is the first in the file. -/
theorem sorted_log_keeps_calls_in_overtaken :
    let opened : Log := { issued := 8 }
    let calls : List Message := [⟨"I", "APP", "a|b"⟩, ⟨"D", "CMD", ""⟩]
    let l : Log := { issued := 10, file := some "10|D|CMD|\n9|I|APP|a|b\n" }
    opened.file = some "" ∧ Progress.Steps (.start opened) ⟨calls, [], l⟩ ∧
      opened.issued + calls.length ≤ greatest ∧ (∀ m ∈ calls, m.StaysOnLine) ∧
      ∃ sorted, l.sort = .ok (2, sorted) ∧ sorted.file = some "9|I|APP|a|b\n10|D|CMD|\n" := by
  intro opened calls l
  have hwritten : Progress.Steps (.start opened) ⟨calls, [], l⟩ := by
    have hcalled : Progress.Steps (.start opened)
        ⟨calls, linesAfter 8 calls, { opened with issued := 10 }⟩ :=
      (Relation.ReflTransGen.single (.call _ ⟨"I", "APP", "a|b"⟩)).tail
        (.call _ ⟨"D", "CMD", ""⟩)
    exact hcalled.trans (Progress.steps_land calls _ (List.reverse_perm _))
  have hfits : opened.issued + calls.length ≤ greatest := by decide
  have hcalls : ∀ m ∈ calls, m.StaysOnLine := by
    simp only [calls, List.forall_mem_cons]
    exact ⟨⟨by decide, by decide, by decide, by decide⟩,
      ⟨by decide, by decide, by decide, by decide⟩, nofun⟩
  obtain ⟨sorted, hsorted, htext⟩ := (sorted_log_keeps_calls_iff rfl hwritten hfits).2 hcalls
  have hlines : textOf (linesAfter opened.issued calls) = "9|I|APP|a|b\n10|D|CMD|\n" := by decide
  exact ⟨rfl, hwritten, hfits, hcalls, sorted, hsorted, hlines ▸ htext⟩

/-- The second part of a message with a line break does not stay behind the first. -/
theorem broken_message_sorted_apart :
    let calls : List Message := [⟨"I", "APP", "a\nb"⟩, ⟨"I", "APP", "c"⟩]
    let l := (({} : Log).write "I" "APP" "a\nb").write "I" "APP" "c"
    Progress.Steps (.start {}) ⟨calls, [], l⟩ ∧
      l.file = some "1|I|APP|a\nb\n2|I|APP|c\n" ∧
      ∃ sorted, l.sort = .ok (3, sorted) ∧
        sorted.file = some "1|I|APP|a\n2|I|APP|c\nb\n" := by
  intro calls l
  have hwritten : Progress.Steps (.start {}) ⟨calls, [], l⟩ :=
    (Progress.steps_write (.start {}) ⟨"I", "APP", "a\nb"⟩).trans
      (Progress.steps_write _ ⟨"I", "APP", "c"⟩)
  have hfile : l.file = some "1|I|APP|a\nb\n2|I|APP|c\n" := by decide
  have hsorted : sortedLines "1|I|APP|a\nb\n2|I|APP|c\n" = ["1|I|APP|a", "2|I|APP|c", "b"] :=
    sortedLines_eq (by decide +kernel) (by decide +kernel)
  have hsort := sort_eq hfile
  rw [hsorted] at hsort
  exact ⟨hwritten, hfile, _, hsort, rfl⟩

end RecordGrid.Log
