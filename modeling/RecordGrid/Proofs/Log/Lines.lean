import Mathlib.Algebra.Order.BigOperators.Group.List
import Mathlib.Algebra.Order.Ring.Nat
import RecordGrid.Log

/-!
# The lines of a log

A text that is written as a line comes back as that line, unless there is a
line break in it or a carriage return at its end: a line break makes it several
lines, and the carriage return is taken for a part of the line's end.
-/

namespace RecordGrid.Log

/-- Lines as a text, each of them ended. -/
def textOf (lines : List String) : String := String.join (lines.map (· ++ "\n"))

/-- What is read back of a line without line breaks, which is given last
character first. -/
def withoutReturn : (reversed : List Char) → List Char
  | '\r' :: line => line.reverse
  | line => line.reverse

/-- What is read back of a text without line breaks. -/
def readBack (line : String) : String := String.ofList (withoutReturn line.toList.reverse)

/-- The text is one line, and comes back as it is. -/
def IsLine (line : String) : Prop := '\n' ∉ line.toList ∧ line.toList.getLast? ≠ some '\r'

instance (line : String) : Decidable (IsLine line) := inferInstanceAs (Decidable (_ ∧ _))

variable {cs line rest : List Char} {lines : List String}

theorem toList_textOf (lines : List String) :
    (textOf lines).toList = lines.flatMap fun line => line.toList ++ ['\n'] := by
  simp [textOf, List.flatMap_map]

theorem textOf_cons (line : String) (lines : List String) :
    textOf (line :: lines) = line ++ "\n" ++ textOf lines := by
  rw [← String.toList_inj]
  simp [toList_textOf]

/-! ## Where lines end -/

theorem linesFrom_cons_of_ne {c : Char} (hc : c ≠ '\n') (line cs : List Char) :
    linesFrom line (c :: cs) = linesFrom (c :: line) cs := by
  rw [linesFrom]
  all_goals simp [hc]

theorem linesFrom_newline (line cs : List Char) :
    linesFrom line ('\n' :: cs) = withoutReturn line :: linesFrom [] cs := by
  unfold withoutReturn
  split
  · rw [linesFrom]
  · rw [linesFrom]
    assumption

theorem linesFrom_of_not_mem (hcs : '\n' ∉ cs) (line rest : List Char) :
    linesFrom line (cs ++ '\n' :: rest) =
      withoutReturn (cs.reverse ++ line) :: linesFrom [] rest := by
  induction cs generalizing line with
  | nil => exact linesFrom_newline line rest
  | cons c cs ih =>
      obtain ⟨hc, hcs⟩ := List.ne_and_not_mem_of_not_mem_cons hcs
      rw [List.cons_append, linesFrom_cons_of_ne (Ne.symm hc), ih hcs, List.reverse_cons,
        List.append_assoc, List.singleton_append]

/-- Nothing of what comes before a line break is read with what comes after it. -/
theorem linesFrom_append_newline (line cs rest : List Char) :
    linesFrom line (cs ++ '\n' :: rest) = linesFrom line (cs ++ ['\n']) ++ linesFrom [] rest := by
  induction cs generalizing line with
  | nil =>
      have hnone : linesFrom [] [] = [] := rfl
      rw [List.nil_append, List.nil_append, linesFrom_newline, linesFrom_newline, hnone,
        List.singleton_append]
  | cons c cs ih =>
      rw [List.cons_append, List.cons_append]
      by_cases hc : c = '\n'
      · rw [hc, linesFrom_newline, linesFrom_newline, ih, List.cons_append]
      · rw [linesFrom_cons_of_ne hc, linesFrom_cons_of_ne hc, ih]

theorem newline_not_mem_withoutReturn (hline : '\n' ∉ line) : '\n' ∉ withoutReturn line := by
  unfold withoutReturn
  split
  · rw [List.mem_reverse]
    exact fun hmem => hline (List.mem_cons_of_mem _ hmem)
  · rwa [List.mem_reverse]

theorem newline_not_mem_linesFrom (hline : '\n' ∉ line) (cs : List Char) :
    ∀ read ∈ linesFrom line cs, '\n' ∉ read := by
  induction cs generalizing line with
  | nil =>
      intro read hread
      cases line with
      | nil => cases hread
      | cons c line =>
          rw [List.mem_singleton.1 hread, List.mem_reverse]
          exact hline
  | cons c cs ih =>
      by_cases hc : c = '\n'
      · rw [hc, linesFrom_newline]
        exact List.forall_mem_cons.2 ⟨newline_not_mem_withoutReturn hline, ih List.not_mem_nil⟩
      · rw [linesFrom_cons_of_ne hc]
        exact ih (List.not_mem_cons_of_ne_of_not_mem (Ne.symm hc) hline)

/-! ## What is read back -/

theorem linesOf_append_newline (text rest : String) :
    linesOf (text ++ "\n" ++ rest) = linesOf (text ++ "\n") ++ linesOf rest := by
  have hnewline : "\n".toList = ['\n'] := rfl
  simp only [linesOf, String.toList_append, hnewline, List.append_assoc, List.singleton_append,
    linesFrom_append_newline _ _ rest.toList, List.map_append]

theorem linesOf_textOf (lines : List String) :
    linesOf (textOf lines) = lines.flatMap fun line => linesOf (line ++ "\n") := by
  induction lines with
  | nil => rfl
  | cons line rest ih =>
      rw [textOf_cons, linesOf_append_newline, ih, List.flatMap_cons]

theorem newline_not_mem_linesOf {content line : String} (hline : line ∈ linesOf content) :
    '\n' ∉ line.toList := by
  obtain ⟨cs, hcs, rfl⟩ := List.mem_map.1 hline
  rw [String.toList_ofList]
  exact newline_not_mem_linesFrom List.not_mem_nil _ cs hcs

theorem linesOf_of_not_mem {line : String} (hline : '\n' ∉ line.toList) :
    linesOf (line ++ "\n") = [readBack line] := by
  have hnewline : "\n".toList = ['\n'] := rfl
  have hnone : linesFrom [] [] = [] := rfl
  rw [linesOf, String.toList_append, hnewline, linesFrom_of_not_mem hline, hnone,
    List.append_nil, List.map_singleton, readBack]

theorem linesOf_textOf_of_not_mem (hlines : ∀ line ∈ lines, '\n' ∉ line.toList) :
    linesOf (textOf lines) = lines.map readBack := by
  rw [linesOf_textOf, List.map_eq_flatMap]
  exact List.flatMap_congr fun line hline => linesOf_of_not_mem (hlines line hline)

theorem withoutReturn_reverse (hcs : cs.getLast? ≠ some '\r') :
    withoutReturn cs.reverse = cs := by
  rcases List.eq_nil_or_concat' cs with rfl | ⟨first, c, rfl⟩
  · rfl
  · rw [List.getLast?_concat] at hcs
    rw [List.reverse_append, List.reverse_singleton, List.singleton_append]
    unfold withoutReturn
    split
    · rename_i heq
      exact absurd (congrArg some (List.cons.inj heq).1) hcs
    · rw [List.reverse_cons, List.reverse_reverse]

theorem IsLine.readBack_eq {line : String} (hline : IsLine line) : readBack line = line := by
  rw [readBack, withoutReturn_reverse hline.2, String.ofList_toList]

/-- Lines that are lines are read back as they were written. -/
theorem linesOf_textOf_of_isLine (hlines : ∀ line ∈ lines, IsLine line) :
    linesOf (textOf lines) = lines := by
  have hsame : lines.map readBack = lines.map id :=
    List.map_congr_left fun line hline => (hlines line hline).readBack_eq
  rw [linesOf_textOf_of_not_mem fun line hline => (hlines line hline).1, hsame, List.map_id]

/-! ## Counting -/

theorem count_newline_textOf (lines : List String) :
    (textOf lines).toList.count '\n' =
      lines.length + (lines.map fun line => line.toList.count '\n').sum := by
  rw [toList_textOf]
  induction lines with
  | nil => rfl
  | cons line rest ih =>
      simp only [List.flatMap_cons, List.count_append, ih, List.map_cons, List.sum_cons,
        List.length_cons, List.count_singleton_self]
      omega

/-- A line break in one of as many lines would be one more than the text has. -/
theorem newline_not_mem_of_textOf
    {read : List String} (hread : ∀ line ∈ read, '\n' ∉ line.toList)
    (hcount : read.length = lines.length) (htext : textOf read = textOf lines) :
    ∀ line ∈ lines, '\n' ∉ line.toList := by
  have hnone : (read.map fun line => line.toList.count '\n').sum = 0 := by
    rw [List.sum_eq_zero_iff]
    intro n hn
    obtain ⟨line, hline, rfl⟩ := List.mem_map.1 hn
    exact List.count_eq_zero_of_not_mem (hread line hline)
  have hbefore := count_newline_textOf read
  have hafter := count_newline_textOf lines
  rw [htext, hafter, hnone, hcount] at hbefore
  have hsum : (lines.map fun line => line.toList.count '\n').sum = 0 := by omega
  intro line hline
  rw [← List.count_eq_zero]
  exact List.sum_eq_zero_iff.1 hsum _ (List.mem_map_of_mem hline)

theorem length_textOf (lines : List String) :
    (textOf lines).length = lines.length + (lines.map String.length).sum := by
  rw [← String.length_toList, toList_textOf]
  induction lines with
  | nil => rfl
  | cons line rest ih =>
      simp only [List.flatMap_cons, List.length_append, ih, List.map_cons, List.sum_cons,
        List.length_cons, List.length_nil, String.length_toList]
      omega

theorem length_withoutReturn (line : List Char) :
    (withoutReturn line).length ≤ line.length ∧
      (line.head? = some '\r' → (withoutReturn line).length < line.length) := by
  unfold withoutReturn
  split
  · simp
  · rename_i hother
    refine ⟨by simp, fun hreturn => ?_⟩
    obtain ⟨rest, rfl⟩ := List.head?_eq_some_iff.1 hreturn
    exact absurd rfl (hother rest)

theorem length_readBack (line : String) :
    (readBack line).length ≤ line.length ∧
      (line.toList.getLast? = some '\r' → (readBack line).length < line.length) := by
  have hlength := length_withoutReturn line.toList.reverse
  rwa [List.head?_reverse, List.length_reverse, String.length_toList,
    ← String.length_ofList] at hlength

/-- A carriage return at the end of a line would be missing from what is read. -/
theorem getLast?_ne_of_length_readBack
    (hlength : ((lines.map readBack).map String.length).sum = (lines.map String.length).sum) :
    ∀ line ∈ lines, line.toList.getLast? ≠ some '\r' := by
  intro line hline hreturn
  refine absurd hlength (Nat.ne_of_lt ?_)
  rw [List.map_map]
  exact List.sum_lt_sum _ _ (fun other _ => (length_readBack other).1)
    ⟨line, hline, (length_readBack line).2 hreturn⟩

end RecordGrid.Log
