import RecordGrid.Json.Basic
import RecordGrid.Proofs.Keyed

/-!
# Values in canonical form

The canonical form of a value is its own canonical form, and so is every value
inside it.  To write a value in canonical form is one way to spell it: what is
found under the keys of an object does not depend on where the members stand.
-/

namespace RecordGrid.Json

open Keyed (keys)

theorem canonicalItems_eq_map (items : List Json) : canonicalItems items = items.map canonical := by
  induction items with
  | nil => rfl
  | cons j rest ih => rw [canonicalItems, List.map_cons, ih]

theorem canonicalMembers_eq_map (members : List (String × Json)) :
    canonicalMembers members = members.map fun m => (m.1, m.2.canonical) := by
  induction members with
  | nil => rfl
  | cons m rest ih => rw [canonicalMembers, List.map_cons, ih]

/-- An object is in canonical form if its keys ascend and its values are. -/
theorem canonical_obj_of_ascending
    {members : List (String × Json)} (hkeys : Keyed.Ascending members)
    (hvalues : ∀ m ∈ members, m.2.canonical = m.2) :
    (Json.obj members).canonical = .obj members := by
  have hmembers : canonicalMembers members = members := by
    rw [canonicalMembers_eq_map]
    calc members.map (fun m => (m.1, m.2.canonical)) = members.map id :=
          List.map_congr_left fun m hm => by rw [hvalues m hm, id]
      _ = members := List.map_id members
  rw [canonical, hmembers, hkeys.ofList_eq]

mutual

theorem canonical_canonical (j : Json) : j.canonical.canonical = j.canonical := by
  cases j with
  | arr items => simp only [canonical, canonicalItems_canonicalItems]
  | obj members =>
      refine canonical_obj_of_ascending (Keyed.ascending_ofList _) ?_
      intro m hm
      exact canonical_of_mem_canonicalMembers members m (Keyed.mem_of_mem_ofList hm)
  | _ => rfl

theorem canonicalItems_canonicalItems (items : List Json) :
    canonicalItems (canonicalItems items) = canonicalItems items := by
  cases items with
  | nil => rfl
  | cons j rest =>
      simp only [canonicalItems, canonical_canonical j, canonicalItems_canonicalItems rest]

theorem canonical_of_mem_canonicalMembers (members : List (String × Json)) :
    ∀ m ∈ canonicalMembers members, m.2.canonical = m.2 := by
  cases members with
  | nil => simp [canonicalMembers]
  | cons first rest =>
      obtain ⟨key, j⟩ := first
      rw [canonicalMembers, List.forall_mem_cons]
      exact ⟨canonical_canonical j, canonical_of_mem_canonicalMembers rest⟩

end

/-! ## Spellings -/

/-- A way to write values that leaves everything but the order of members as it
is, and that has nothing left to do inside what it leaves alone. -/
structure Spelling (spell : Json → Json) : Prop where
  null : spell .null = .null
  bool : ∀ b, spell (.bool b) = .bool b
  int : ∀ n, spell (.int n) = .int n
  float : ∀ x, spell (.float x) = .float x
  str : ∀ s, spell (.str s) = .str s
  arr : ∀ items, spell (.arr items) = .arr (items.map spell)
  obj : ∀ members, (keys members).Nodup →
    ∃ spelled, spell (.obj members) = .obj spelled ∧ (keys spelled).Nodup ∧
      ∀ key, spelled.lookup key = (members.lookup key).map spell
  inside : ∀ members, spell (.obj members) = .obj members → ∀ m ∈ members, spell m.2 = m.2

theorem Spelling.inside_arr
    {spell : Json → Json} (hspell : Spelling spell) {items : List Json}
    (hitems : spell (.arr items) = .arr items) :
    ∀ j ∈ items, spell j = j := by
  have hmap : items.map spell = items.map id := by
    rw [List.map_id]
    exact Json.arr.inj ((hspell.arr items).symm.trans hitems)
  exact List.map_inj_left.1 hmap

theorem Spelling.asWritten : Spelling id where
  null := rfl
  bool := fun _ => rfl
  int := fun _ => rfl
  float := fun _ => rfl
  str := fun _ => rfl
  arr := fun items => by rw [List.map_id, id]
  obj := fun members hkeys => ⟨members, rfl, hkeys, fun key => by rw [Option.map_id, id]⟩
  inside := fun _ _ _ _ => rfl

theorem lookup_canonicalMembers (members : List (String × Json)) (key : String) :
    (canonicalMembers members).lookup key = (members.lookup key).map canonical := by
  induction members with
  | nil => rfl
  | cons m rest ih =>
      obtain ⟨k, j⟩ := m
      rw [canonicalMembers, List.lookup_cons, List.lookup_cons, ih]
      split <;> rfl

theorem Spelling.canonical : Spelling canonical where
  null := rfl
  bool := fun _ => rfl
  int := fun _ => rfl
  float := fun _ => rfl
  str := fun _ => rfl
  arr := fun items => by rw [Json.canonical, canonicalItems_eq_map]
  obj := by
    intro members hkeys
    have hspelled : (keys (canonicalMembers members)).Nodup := by
      rw [canonicalMembers_eq_map, keys, List.map_map]
      exact hkeys
    refine ⟨_, rfl, (Keyed.ascending_ofList _).nodup, ?_⟩
    intro key
    rw [← lookup_canonicalMembers]
    exact Keyed.get?_ofList hspelled key
  inside := by
    intro members hmembers m hm
    have hsorted : Keyed.ofList (canonicalMembers members) = members := Json.obj.inj hmembers
    rw [← hsorted] at hm
    exact canonical_of_mem_canonicalMembers members m (Keyed.mem_of_mem_ofList hm)

end RecordGrid.Json
