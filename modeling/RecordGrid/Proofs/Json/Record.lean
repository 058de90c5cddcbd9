import RecordGrid.Json.Record
import RecordGrid.Proofs.Json.Canonical
import RecordGrid.Schema.Writing

/-!
# Reading what was written

A record is written as an object with a member for every field that is there.
However the object is spelled, a reader finds under the name of each field what
was written for it, and a field whose value was read once is read again as the
same value.
-/

namespace RecordGrid.Json

open Keyed (keys)

variable {α : Type} {spell : Json → Json} {read : Json → Option α} {a : α} {o : Option α}
  {r members : List (String × Json)} {fields : List (String × Option Json)} {name : String}

/-! ## The members of a written record -/

/-- The members for the fields that are there. -/
def present (fields : List (String × Option Json)) : List (String × Json) :=
  fields.filterMap fun m => m.2.map fun j => (m.1, j)

theorem present_cons_none (name : String) (fields : List (String × Option Json)) :
    present ((name, none) :: fields) = present fields := rfl

theorem present_cons_some (name : String) (j : Json) (fields : List (String × Option Json)) :
    present ((name, some j) :: fields) = (name, j) :: present fields := rfl

theorem keys_present_sublist (fields : List (String × Option Json)) :
    (keys (present fields)).Sublist (fields.map (·.1)) := by
  induction fields with
  | nil => exact .refl []
  | cons field rest ih =>
      obtain ⟨name, value⟩ := field
      cases value with
      | none => exact ih.cons name
      | some j => exact ih.cons_cons name

theorem lookup_present (hfields : (fields.map (·.1)).Nodup) (name : String) :
    (present fields).lookup name = (fields.lookup name).join := by
  induction fields with
  | nil => rfl
  | cons field rest ih =>
      obtain ⟨first, value⟩ := field
      obtain ⟨hfirst, hrest⟩ := List.nodup_cons.1 hfields
      cases value with
      | some j =>
          rw [present_cons_some, List.lookup_cons, List.lookup_cons, ih hrest]
          split <;> rfl
      | none =>
          rw [present_cons_none, List.lookup_cons, ih hrest]
          split
          · rename_i hsame
            have hmissing : rest.lookup name = none := by
              rw [List.lookup_eq_none_iff]
              intro later hlater
              have hne : later.1 ≠ first := fun hsame' =>
                hfirst (hsame' ▸ List.mem_map.2 ⟨later, hlater, rfl⟩)
              simpa [eq_of_beq hsame] using Ne.symm hne
            rw [hmissing]
            rfl
          · rfl

theorem record?_obj (hkeys : (keys members).Nodup) (names : List String) :
    record? names (.obj members) = some members := by
  refine if_pos (List.all_eq_true.2 fun name _ => decide_eq_true ?_)
  have hcount : (keys members).count name ≤ 1 := List.nodup_iff_count.1 hkeys name
  rwa [keys, List.count, List.countP_map] at hcount

/-- The members of a written record, in some spelling: every reader takes them
as a record, and finds under each name what was written there. -/
structure Holds (spell : Json → Json) (written : String → Option Json)
    (r : List (String × Json)) : Prop where
  record : ∀ names, record? names (.obj r) = some r
  lookup : ∀ name, r.lookup name = (written name).map spell

theorem Spelling.obj_elim
    {P : Json → Prop} (hspell : Spelling spell) (names : List String)
    (hkeys : keys members = names) (hnames : names.Nodup)
    (holds : ∀ r, Holds spell (fun name => members.lookup name) r → P (.obj r)) :
    P (spell (.obj members)) := by
  obtain ⟨r, hr, hdistinct, hlookup⟩ := hspell.obj members (hkeys ▸ hnames)
  rw [hr]
  exact holds r ⟨record?_obj hdistinct, hlookup⟩

theorem Spelling.objectOf_elim
    {P : Json → Prop} (hspell : Spelling spell) (names : List String)
    (hfields : fields.map (·.1) = names) (hnames : names.Nodup)
    (holds : ∀ r, Holds spell (fun name => (fields.lookup name).join) r → P (.obj r)) :
    P (spell (objectOf fields)) := by
  have hdistinct : (fields.map (·.1)).Nodup := hfields ▸ hnames
  have hkeys : (keys (present fields)).Nodup := hdistinct.sublist (keys_present_sublist fields)
  change P (spell (.obj (present fields)))
  refine hspell.obj_elim (keys (present fields)) rfl hkeys fun r hr => ?_
  refine holds r ⟨hr.record, fun name => ?_⟩
  rw [hr.lookup, lookup_present hdistinct]

/-- What is inside a record that a spelling leaves alone it leaves alone, too. -/
theorem Spelling.inside_record
    (hspell : Spelling spell) {names : List String} {j : Json} (hj : spell j = j)
    (hrecord : record? names j = some r) :
    ∀ m ∈ r, spell m.2 = m.2 := by
  intro m hm
  cases j with
  | obj members =>
      simp only [record?, Option.ite_none_right_eq_some, Option.some.injEq] at hrecord
      exact hspell.inside members hj m (hrecord.2 ▸ hm)
  | arr items =>
      simp only [record?, Option.ite_none_right_eq_some, Option.some.injEq] at hrecord
      have hitem : m.2 ∈ items := (List.of_mem_zip (hrecord.2 ▸ hm)).2
      exact hspell.inside_arr hj m.2 hitem
  | _ => cases hrecord

/-! ## The fields of a written record -/

theorem bind_eq_some
    {β : Type} {f : α → Option β} {b : β} (ho : o = some a) (hf : f a = some b) :
    o >>= f = some b :=
  Option.bind_eq_some_iff.2 ⟨a, ho, hf⟩

/-- A value that is there, and is read as `a`. -/
def Reads (read : Json → Option α) (j : Json) (a : α) : Prop := j ≠ .null ∧ read j = some a

theorem defaulted_of_lookup
    {j : Json} (hfield : r.lookup name = some j) (hread : read j = some a) (default : α) :
    defaulted r name default read = some a := by
  simp only [defaulted, hfield, hread]

theorem optional_of_lookup
    {j : Json} (hfield : r.lookup name = some j) (hread : Reads read j a) :
    optional r name read = some (some a) := by
  obtain ⟨hthere, hread⟩ := hread
  cases j <;> simp_all [optional]

/-- What a field that may be missing holds was read from a value under its name. -/
theorem exists_of_mem_optional
    (hoptional : optional r name read = some o) (ha : a ∈ o) :
    ∃ j, (name, j) ∈ r ∧ Reads read j a := by
  unfold optional at hoptional
  split at hoptional
  · cases hoptional
    cases ha
  · cases hoptional
    cases ha
  · rename_i j hnull hlookup
    obtain ⟨b, hb, rfl⟩ := Option.map_eq_some_iff.1 hoptional
    cases ha
    obtain ⟨before, after, hr, -⟩ := List.lookup_eq_some_iff.1 hlookup
    have hmem : (name, j) ∈ r := hr ▸ List.mem_append_right before (List.mem_cons_self ..)
    exact ⟨j, hmem, hnull, hb⟩

theorem optional_of_map
    {write : α → Json} (hfield : r.lookup name = (o.map write).map spell)
    (hread : ∀ a ∈ o, Reads read (spell (write a)) a) :
    optional r name read = some o := by
  cases o with
  | none => simp only [optional, hfield, Option.map_none]
  | some a => exact optional_of_lookup hfield (hread a rfl)

theorem optional_of_ofOption
    {write : α → Json} (hspell : Spelling spell)
    (hfield : r.lookup name = (some (ofOption write o)).map spell)
    (hread : ∀ a ∈ o, Reads read (spell (write a)) a) :
    optional r name read = some o := by
  cases o with
  | none => simp only [optional, hfield, ofOption, Option.map_some, hspell.null]
  | some a => exact optional_of_lookup hfield (hread a rfl)

theorem defaulted_of_unlessEmpty
    {as : List α} {read : Json → Option (List α)} {write : List α → Json}
    (hfield : r.lookup name = (unlessEmpty write as).map spell)
    (hread : read (spell (write as)) = some as) :
    defaulted r name [] read = some as := by
  cases as with
  | nil => simp only [defaulted, hfield, unlessEmpty, Option.map_none]
  | cons a rest => exact defaulted_of_lookup hfield hread []

/-! ## Values -/

/-- A count that fits into 64 bits, if there is one. -/
def IsCount (o : Option Nat) : Prop := ∀ n ∈ o, n < 0x10000000000000000

theorem isCount_none : IsCount none := by
  intro n hn
  cases hn

theorem lt_of_asNatBelow? {limit n : Nat} {j : Json} (hread : asNatBelow? limit j = some n) :
    n < limit := by
  unfold asNatBelow? at hread
  split at hread
  · split at hread
    · cases hread
      assumption
    · cases hread
  · cases hread

theorem isCount_of_optional
    {o : Option Nat} (hoptional : optional r name asCount? = some o) : IsCount o := by
  intro n hn
  obtain ⟨j, -, -, hread⟩ := exists_of_mem_optional hoptional hn
  exact lt_of_asNatBelow? hread

namespace Spelling

variable (hspell : Spelling spell)

include hspell

theorem reads_str (s : String) : Reads asStr? (spell (.str s)) s := by
  rw [hspell.str]
  exact ⟨nofun, rfl⟩

theorem read_bool (b : Bool) : asBool? (spell (.bool b)) = some b := by
  rw [hspell.bool, asBool?]

theorem reads_float (x : Float) : Reads asNumber? (spell (.float x)) x := by
  rw [hspell.float]
  exact ⟨nofun, rfl⟩

theorem reads_nat {n limit : Nat} (hn : n < limit) :
    Reads (asNatBelow? limit) (spell (ofNat n)) n := by
  rw [ofNat, hspell.int]
  exact ⟨nofun, if_pos hn⟩

theorem reads_count {o : Option Nat} (ho : IsCount o) :
    ∀ n ∈ o, Reads asCount? (spell (ofNat n)) n :=
  fun n hn => hspell.reads_nat (ho n hn)

theorem read_list
    {as : List α} {write : α → Json} (hread : ∀ a ∈ as, read (spell (write a)) = some a) :
    asList? read (spell (.arr (as.map write))) = some as := by
  rw [hspell.arr, List.map_map, asList?, List.mapM_map]
  induction as with
  | nil => rfl
  | cons a rest ih =>
      rw [List.forall_mem_cons] at hread
      rw [List.mapM_cons, ih hread.2, Function.comp_apply, Function.comp_apply, hread.1]
      rfl

theorem reads_strings (ss : List String) : Reads (asList? asStr?) (spell (strings ss)) ss := by
  have hread : asList? asStr? (spell (strings ss)) = some ss :=
    hspell.read_list fun s _ => (hspell.reads_str s).2
  refine ⟨?_, hread⟩
  rw [strings, hspell.arr]
  exact nofun

/-- A word is read as what it stands for, if the words differ. -/
theorem read_word
    [DecidableEq α] {words : List (String × α)} (hwords : (keys words).Nodup)
    (hword : a ∈ words.map (·.2)) :
    word words (spell (ofWord words a)) = some a := by
  obtain ⟨w, hmem, hvalue⟩ := List.mem_map.1 hword
  have hsome : (words.find? fun w => w.2 = a).isSome = true :=
    List.find?_isSome.2 ⟨w, hmem, decide_eq_true hvalue⟩
  obtain ⟨w, hfound⟩ := Option.isSome_iff_exists.1 hsome
  have hvalue : w.2 = a := by simpa using List.find?_some hfound
  have hlookup : words.lookup w.1 = some w.2 :=
    Keyed.get?_of_mem hwords (List.mem_of_find?_eq_some hfound)
  rw [ofWord, hfound, ofOption, hspell.str, word, hlookup, hvalue]

end Spelling

end RecordGrid.Json
