import Mathlib.Data.List.Perm.Subperm
import Mathlib.Order.Bounds.Basic
import Mathlib.Order.Nat
import RecordGrid.Grid.FieldId

/-!
# Ids for new fields are free

Numbers tell candidates apart, and an id that is taken is no candidate itself.  So
as many candidates as ids are taken cannot all be taken, and the search that tries
one number after the other ends, at the least number whose candidate is free.
-/

namespace RecordGrid

variable {taken : List String} {base : String}

/-! ## Candidates -/

theorem numbered_injective (base : String) {m n : Nat}
    (h : numbered base m = numbered base n) : m = n := by
  have hrepr : m.repr = n.repr := by
    simpa [numbered, String.append_right_inj] using h
  have hdigits : Nat.toDigits 10 m = Nat.toDigits 10 n := by
    rw [← Nat.toList_repr, ← Nat.toList_repr, hrepr]
  calc m = Nat.ofDigitChars 10 (Nat.toDigits 10 m) 0 :=
        Nat.ofDigitChars_ten_toDigits.symm
    _ = Nat.ofDigitChars 10 (Nat.toDigits 10 n) 0 := by rw [hdigits]
    _ = n := Nat.ofDigitChars_ten_toDigits

theorem numbered_ne (base : String) (n : Nat) : numbered base n ≠ base := by
  intro h
  have hlength := congrArg String.length h
  simp only [numbered, String.length_append] at hlength
  have hmark : "_".length = 1 := rfl
  omega

/-- The candidates with numbers from two on. -/
def candidates (base : String) (count : Nat) : List String :=
  (List.range' 2 count).map (numbered base)

theorem candidates_nodup (base : String) (count : Nat) : (candidates base count).Nodup := by
  have hrange : (List.range' 2 count).Nodup := List.nodup_range'
  unfold candidates
  refine List.Pairwise.map _ ?_ hrange
  intro m n hmn hnumbered
  exact hmn (numbered_injective base hnumbered)

theorem not_mem_candidates (base : String) (count : Nat) : base ∉ candidates base count := by
  intro hmem
  obtain ⟨n, -, hn⟩ := List.mem_map.1 hmem
  exact numbered_ne base n hn

/-- As many candidates as there are ids, and the id itself, cannot all be taken. -/
theorem exists_free_candidate (hbase : base ∈ taken) :
    ∃ id ∈ candidates base taken.length, id ∉ taken := by
  by_contra hnone
  have hsubset : base :: candidates base taken.length ⊆ taken := by
    refine List.cons_subset.2 ⟨hbase, ?_⟩
    intro id hid
    by_contra hfree
    exact hnone ⟨id, hid, hfree⟩
  have hnodup : (base :: candidates base taken.length).Nodup :=
    List.nodup_cons.2 ⟨not_mem_candidates base _, candidates_nodup base _⟩
  have hlength := (hnodup.subperm hsubset).length_le
  simp only [candidates, List.length_cons, List.length_map, List.length_range'] at hlength
  omega

/-! ## The least free number -/

/-- The numbers from `start` on whose candidates are free. -/
def freeNumbers (taken : List String) (base : String) (start : Nat) : Set Nat :=
  {n | start ≤ n ∧ numbered base n ∉ taken}

theorem exists_isLeast_freeNumbers (hbase : base ∈ taken) :
    ∃ n ≤ taken.length + 1, IsLeast (freeNumbers taken base 2) n := by
  obtain ⟨id, hid, hfree⟩ := exists_free_candidate hbase
  obtain ⟨m, hm, rfl⟩ := List.mem_map.1 hid
  rw [List.mem_range'_1] at hm
  have hsome : ∃ n, n ∈ freeNumbers taken base 2 := ⟨m, hm.1, hfree⟩
  classical
  have hleast : Nat.find hsome ≤ m := Nat.find_min' hsome ⟨hm.1, hfree⟩
  exact ⟨Nat.find hsome, by omega, Nat.isLeast_find hsome⟩

theorem uniqueFieldId_of_not_mem (hbase : base ∉ taken) : uniqueFieldId taken base = base := by
  simp [uniqueFieldId, hbase]

theorem uniqueFieldId_of_isLeast
    (hbase : base ∈ taken) {n : Nat} (hleast : IsLeast (freeNumbers taken base 2) n) :
    uniqueFieldId taken base = numbered base n := by
  obtain ⟨m, hm, hleastm⟩ := exists_isLeast_freeNumbers hbase
  obtain rfl : n = m := hleast.unique hleastm
  have hfound : (List.range' 2 (taken.length + 1)).find?
      (fun k => !taken.contains (numbered base k)) = some n := by
    rw [List.find?_range'_eq_some]
    refine ⟨by simpa using hleast.1.2, List.mem_range'_1.2 ⟨hleast.1.1, by omega⟩, ?_⟩
    intro k hk hlt
    by_contra hfree
    have hle : n ≤ k := hleast.2 ⟨hk, by simpa using hfree⟩
    omega
  rw [uniqueFieldId, if_pos (by simpa using hbase), List.find?_map, Function.comp_def, hfound]
  rfl

theorem uniqueFieldId_not_mem (taken : List String) (base : String) :
    uniqueFieldId taken base ∉ taken := by
  by_cases hbase : base ∈ taken
  · obtain ⟨n, -, hleast⟩ := exists_isLeast_freeNumbers hbase
    rw [uniqueFieldId_of_isLeast hbase hleast]
    exact hleast.1.2
  · rwa [uniqueFieldId_of_not_mem hbase]

/-! ## The search -/

/-- The search for a free number, from `start` on, ends at `found`.  It stops at the
first candidate that is free and goes on to the next number from one that is taken;
nothing else bounds it. -/
inductive SearchEnds (taken : List String) (base : String) : (start found : Nat) → Prop
  | free {n : Nat} (hfree : numbered base n ∉ taken) : SearchEnds taken base n n
  | next {n found : Nat} (htaken : numbered base n ∈ taken)
      (hrest : SearchEnds taken base (n + 1) found) : SearchEnds taken base n found

theorem isLeast_freeNumbers_of_free {n : Nat} (hfree : numbered base n ∉ taken) :
    IsLeast (freeNumbers taken base n) n :=
  ⟨⟨le_rfl, hfree⟩, fun _ hm => hm.1⟩

/-- To pass a number whose candidate is taken loses no free number. -/
theorem freeNumbers_of_taken {n : Nat} (htaken : numbered base n ∈ taken) :
    freeNumbers taken base n = freeNumbers taken base (n + 1) := by
  ext m
  constructor
  · rintro ⟨hle, hfree⟩
    have hne : n ≠ m := by
      rintro rfl
      exact hfree htaken
    exact ⟨by omega, hfree⟩
  · rintro ⟨hle, hfree⟩
    exact ⟨by omega, hfree⟩

theorem SearchEnds.isLeast {n found : Nat} (hends : SearchEnds taken base n found) :
    IsLeast (freeNumbers taken base n) found := by
  induction hends with
  | free hfree => exact isLeast_freeNumbers_of_free hfree
  | next htaken _ ih => rwa [freeNumbers_of_taken htaken]

theorem searchEnds_of_isLeast {n found : Nat} (hleast : IsLeast (freeNumbers taken base n) found) :
    SearchEnds taken base n found := by
  -- by the numbers that are left to pass
  obtain ⟨left, hleft⟩ := Nat.exists_eq_add_of_le hleast.1.1
  induction left generalizing n with
  | zero =>
      obtain rfl : found = n := hleft
      exact .free hleast.1.2
  | succ left ih =>
      have htaken : numbered base n ∈ taken := by
        by_contra hfree
        have heq : found = n := hleast.unique (isLeast_freeNumbers_of_free hfree)
        omega
      rw [freeNumbers_of_taken htaken] at hleast
      exact .next htaken (ih hleast (by omega))

/-- The id that is given belongs to no column.  It is the one asked for where that is
free; else the search from two on ends, at one number only, and this is the least one
whose candidate is free.  No number beyond one more than there are columns is tried,
so a signed counter of 32 bits serves any table of fewer than 2^31 - 2 columns. -/
theorem search_ends_at_first_free_id (columns : List Column) (base : String) :
    let taken := columns.map (·.fieldId)
    uniqueFieldId taken base ∉ taken ∧
      (base ∉ taken ∧ uniqueFieldId taken base = base ∨
        base ∈ taken ∧ ∃ n ≤ columns.length + 1,
          (∀ found, SearchEnds taken base 2 found ↔ found = n) ∧
          IsLeast (freeNumbers taken base 2) n ∧
          uniqueFieldId taken base = numbered base n) := by
  intro taken
  refine ⟨uniqueFieldId_not_mem taken base, ?_⟩
  by_cases hbase : base ∈ taken
  · obtain ⟨n, hn, hleast⟩ := exists_isLeast_freeNumbers hbase
    have hends : ∀ found, SearchEnds taken base 2 found ↔ found = n := by
      intro found
      constructor
      · intro hfound
        exact hfound.isLeast.unique hleast
      · rintro rfl
        exact searchEnds_of_isLeast hleast
    rw [List.length_map] at hn
    exact .inr ⟨hbase, n, hn, hends, hleast, uniqueFieldId_of_isLeast hbase hleast⟩
  · exact .inl ⟨hbase, uniqueFieldId_of_not_mem hbase⟩

example : uniqueFieldId ["a_3", "a", "a_2", "a_5"] "a" = "a_4" := by decide

end RecordGrid
