import RecordGrid.Proofs.Log.Order

/-!
# Sorting whatever a log holds

A file need not hold what was logged.  Sorting takes it for lines, whatever it is,
and looks for a number of 64 bits before the first bar of each.  The lines that are
not blank come out in the order of these numbers, those without one at the end, and
lines of one number as they stood.
-/

namespace RecordGrid.Log

/-! ## Lines of a text -/

/-- What stands before a line break, without one carriage return at its end. -/
def chomp (cs : List Char) : List Char := if cs.getLast? = some '\r' then cs.dropLast else cs

/-- What stands between the line breaks of a text, and what comes after the last. -/
def parts (cs : List Char) : List (List Char) :=
  (cs.splitOn '\n').dropLast.map chomp ++ (cs.splitOn '\n').getLast?.toList

/-- The lines of a text that are more than whitespace. -/
def contentLines (content : String) : List String :=
  ((parts content.toList).map String.ofList).filter fun line => !Text.allBlank line

theorem withoutReturn_reverse_eq (cs : List Char) : withoutReturn cs.reverse = chomp cs := by
  unfold chomp
  split
  · rename_i hreturn
    obtain ⟨first, rfl⟩ := List.getLast?_eq_some_iff.1 hreturn
    rw [List.reverse_append, List.reverse_singleton, List.singleton_append, withoutReturn,
      List.reverse_reverse, List.dropLast_concat]
  · rename_i hother
    exact withoutReturn_reverse hother

theorem parts_of_not_mem {cs : List Char} (hcs : '\n' ∉ cs) : parts cs = [cs] := by
  rw [parts, List.splitOn_eq_singleton hcs]
  rfl

theorem parts_append {cs : List Char} (hcs : '\n' ∉ cs) (rest : List Char) :
    parts (cs ++ '\n' :: rest) = chomp cs :: parts rest := by
  have hsome := List.splitOn_ne_nil '\n' rest
  rw [parts, List.splitOn_append_cons_self_of_not_mem hcs, List.dropLast_cons_of_ne_nil hsome,
    List.getLast?_cons_of_ne_nil hsome, List.map_cons, List.cons_append, parts]

theorem linesFrom_of_no_newline {cs : List Char} (hcs : '\n' ∉ cs) (line : List Char) :
    linesFrom line cs = if line = [] ∧ cs = [] then [] else [line.reverse ++ cs] := by
  induction cs generalizing line with
  | nil => cases line <;> simp [linesFrom]
  | cons c cs ih =>
      obtain ⟨hc, hcs⟩ := List.ne_and_not_mem_of_not_mem_cons hcs
      rw [linesFrom_cons_of_ne (Ne.symm hc), ih hcs]
      simp

/-- After a line break at the end of a text comes nothing, which is no line. -/
theorem filter_linesFrom {keep : List Char → Bool} (hnothing : keep [] = false) (cs : List Char) :
    (linesFrom [] cs).filter keep = (parts cs).filter keep := by
  by_cases hbreak : '\n' ∈ cs
  · obtain ⟨line, rest, hcs, hline⟩ := List.eq_append_cons_of_mem hbreak
    have hshorter : rest.length < cs.length := by
      rw [hcs, List.length_append, List.length_cons]
      omega
    have ih := filter_linesFrom hnothing rest
    rw [hcs, linesFrom_of_not_mem hline, List.append_nil, withoutReturn_reverse_eq, parts_append hline,
      List.filter_cons, List.filter_cons, ih]
  · rw [linesFrom_of_no_newline hbreak, parts_of_not_mem hbreak]
    by_cases hempty : cs = []
    · simp [hempty, hnothing]
    · simp [hempty]
termination_by cs.length

theorem filter_linesOf (content : String) :
    ((linesOf content).filter fun line => !Text.allBlank line) = contentLines content := by
  rw [linesOf, contentLines, List.filter_map, List.filter_map, filter_linesFrom]
  rfl

/-! ## The number of a line -/

/-- The characters before the first bar, which are all where there is none. -/
def IsHead (line head : List Char) : Prop :=
  '|' ∉ head ∧ (line = head ∨ ∃ rest, line = head ++ '|' :: rest)

/-- The characters are a number that fits in 64 bits; a plus sign may come first. -/
def IsNumber (cs : List Char) (n : Nat) : Prop :=
  (∃ digits, (cs = digits ∨ cs = '+' :: digits) ∧ digits ≠ [] ∧
    (∀ d ∈ digits, d.isDigit = true) ∧ Number.digitsValue digits = n) ∧ n < 2 ^ 64

/-- What a line is sorted by. -/
inductive SortKey (line : String) : Nat → Prop where
  | number {head : List Char} {n : Nat} (hhead : IsHead line.toList head)
      (hnumber : IsNumber head n) : SortKey line n
  | largest {head : List Char} (hhead : IsHead line.toList head)
      (hnone : ∀ n, ¬IsNumber head n) : SortKey line (2 ^ 64 - 1)

theorem isHead_iff {line head : List Char} :
    IsHead line head ↔ line.takeWhile (fun c => c ≠ '|') = head := by
  constructor
  · rintro ⟨hbar, hline⟩
    have hbefore : ∀ c ∈ head, decide (c ≠ '|') = true :=
      fun c hc => decide_eq_true fun hsame => hbar (hsame ▸ hc)
    have hthrough (rest : List Char) : (head ++ rest).takeWhile (fun c => decide (c ≠ '|')) =
        head ++ rest.takeWhile fun c => decide (c ≠ '|') :=
      List.takeWhile_append_of_pos hbefore
    rcases hline with rfl | ⟨rest, rfl⟩
    · simpa using hthrough []
    · simpa using hthrough ('|' :: rest)
  · rintro rfl
    refine ⟨fun hmem => ?_, ?_⟩
    · exact absurd rfl (of_decide_eq_true (List.all_eq_true.1 List.all_takeWhile '|' hmem))
    · have hwhole := List.takeWhile_append_dropWhile (p := fun c => decide (c ≠ '|')) (l := line)
      cases hrest : line.dropWhile fun c => decide (c ≠ '|') with
      | nil =>
          rw [hrest, List.append_nil] at hwhole
          exact .inl hwhole.symm
      | cons c rest =>
          have hbar : c = '|' := by
            have hhead := List.head?_dropWhile_not (fun c => decide (c ≠ '|')) line
            rw [hrest] at hhead
            simpa using hhead
          rw [hrest, hbar] at hwhole
          exact .inr ⟨rest, hwhole.symm⟩

theorem numberOf?_eq_some_iff {cs : List Char} {n : Nat} :
    numberOf? cs = some n ↔ ∃ digits, (cs = digits ∨ cs = '+' :: digits) ∧ digits ≠ [] ∧
      (∀ d ∈ digits, d.isDigit = true) ∧ Number.digitsValue digits = n := by
  have hvalue (ds : List Char) :
      ds.foldl (fun n c => n * 10 + (c.toNat - '0'.toNat)) 0 = Number.digitsValue ds := by
    simp only [Number.digitsValue, Nat.mul_comm 10]
  have hread (ds : List Char) :
      (if ds.isEmpty || !ds.all Char.isDigit then none
        else some (ds.foldl (fun n c => n * 10 + (c.toNat - '0'.toNat)) 0)) = some n ↔
        ds ≠ [] ∧ (∀ d ∈ ds, d.isDigit = true) ∧ Number.digitsValue ds = n := by
    rw [hvalue]
    cases ds <;> simp [and_assoc]
  have hplus : Char.isDigit '+' = false := by decide
  unfold numberOf?
  split
  · rename_i ds
    rw [hread]
    constructor
    · intro hds
      exact ⟨ds, .inr rfl, hds⟩
    · rintro ⟨digits, rfl | hsame, hsome, hdigits, hn⟩
      · simp [hplus] at hdigits
      · rw [List.cons.inj hsame |>.2]
        exact ⟨hsome, hdigits, hn⟩
  · rename_i hother
    rw [hread]
    constructor
    · intro hds
      exact ⟨cs, .inl rfl, hds⟩
    · rintro ⟨digits, rfl | rfl, hds⟩
      · exact hds
      · exact absurd rfl (hother digits)

theorem isNumber_iff {cs : List Char} {n : Nat} :
    IsNumber cs n ↔ numberOf? cs = some n ∧ n ≤ greatest := by
  rw [IsNumber, numberOf?_eq_some_iff]
  exact and_congr_right fun _ => Nat.lt_succ_iff

section

variable {line : String} {head : List Char} {n : Nat}

theorem keyOf_of_isNumber (hhead : IsHead line.toList head) (hnumber : IsNumber head n) :
    keyOf line = n := by
  obtain ⟨hread, hfits⟩ := isNumber_iff.1 hnumber
  rw [keyOf, isHead_iff.1 hhead, hread]
  exact if_pos hfits

/-- A number that does not fit is as good as none. -/
theorem keyOf_of_no_number (hhead : IsHead line.toList head) (hnone : ∀ n, ¬IsNumber head n) :
    keyOf line = 2 ^ 64 - 1 := by
  rw [keyOf, isHead_iff.1 hhead]
  split
  · rename_i m hread
    exact if_neg fun hfits => hnone m (isNumber_iff.2 ⟨hread, hfits⟩)
  · rfl

/-- Every line has one key. -/
theorem sortKey_iff : SortKey line n ↔ keyOf line = n := by
  constructor
  · intro hkey
    cases hkey with
    | number hhead hnumber => exact keyOf_of_isNumber hhead hnumber
    | largest hhead hnone => exact keyOf_of_no_number hhead hnone
  · rintro rfl
    have hhead : IsHead line.toList (line.toList.takeWhile fun c => c ≠ '|') := isHead_iff.2 rfl
    by_cases hsome : ∃ m, IsNumber (line.toList.takeWhile fun c => c ≠ '|') m
    · obtain ⟨m, hnumber⟩ := hsome
      rw [keyOf_of_isNumber hhead hnumber]
      exact .number hhead hnumber
    · have hnone := not_exists.1 hsome
      rw [keyOf_of_no_number hhead hnone]
      exact .largest hhead hnone

instance : Decidable (SortKey line n) := decidable_of_iff (keyOf line = n) sortKey_iff.symm

end

/-! ## Sorting -/

/-- The same lines in the order of their keys, and those of one key as before. -/
structure StablySorted (before after : List String) : Prop where
  perm : after.Perm before
  ordered : after.Pairwise fun a b => ∀ m n, SortKey a m → SortKey b n → m ≤ n
  stable : ∀ n, after.filter (SortKey · n) = before.filter (SortKey · n)

/-- Lines of one key are in order already, and sorting keeps them so. -/
theorem filter_mergeSort_keyOf (lines : List String) (n : Nat) :
    (lines.mergeSort fun a b => decide (keyOf a ≤ keyOf b)).filter (SortKey · n) =
      lines.filter (SortKey · n) := by
  have hkey : ∀ line ∈ lines.filter (SortKey · n), keyOf line = n := by
    intro line hline
    exact sortKey_iff.1 (of_decide_eq_true (List.mem_filter.1 hline).2)
  have hordered : (lines.filter (SortKey · n)).Pairwise
      fun a b => decide (keyOf a ≤ keyOf b) = true := by
    refine List.pairwise_of_forall_mem_list fun a ha b hb => decide_eq_true ?_
    rw [hkey a ha, hkey b hb]
  have hkept := List.sublist_mergeSort keyOrder_trans keyOrder_total hordered List.filter_sublist
  have hagain := hkept.filter (SortKey · n)
  rw [List.filter_eq_self.2 fun line hline => decide_eq_true (sortKey_iff.2 (hkey line hline))]
    at hagain
  have hcount := ((List.mergeSort_perm lines fun a b => decide (keyOf a ≤ keyOf b)).filter
    (SortKey · n)).length_eq
  exact (hagain.eq_of_length hcount.symm).symm

theorem stablySorted_sortedLines (content : String) :
    StablySorted (contentLines content) (sortedLines content) := by
  have hlines := filter_linesOf content
  refine ⟨hlines ▸ sortedLines_perm content, ?_, fun n => ?_⟩
  · refine (pairwise_sortedLines content).imp fun hab m n hm hn => ?_
    rwa [← sortKey_iff.1 hm, ← sortKey_iff.1 hn]
  · rw [sortedLines, filter_mergeSort_keyOf, hlines]

/-- Sorting an open log leaves the lines that are not blank, each ended by a line
break, in the order of their keys, lines of one key as they stood, and tells how
many there are. -/
theorem sort_keeps_lines_of_content (issued : Nat) (content : String) :
    ∃ sorted, StablySorted (contentLines content) sorted ∧
      ({ issued, file := some content } : Log).sort =
        .ok ((contentLines content).length, { issued, file := some (textOf sorted) }) := by
  have hsorted := stablySorted_sortedLines content
  refine ⟨sortedLines content, hsorted, ?_⟩
  rw [sort_eq rfl, hsorted.perm.length_eq]

end RecordGrid.Log
