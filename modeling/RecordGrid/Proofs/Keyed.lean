import Mathlib.Data.List.Induction
import RecordGrid.Keyed

/-!
# The keys of keyed lists

Values that are put under different keys do not get in each other's way, so it
makes no difference which of them is put in first.  The keys always ascend, and
a list whose keys ascend is the keyed list of itself.
-/

namespace RecordGrid.Keyed

variable {α : Type} {key k : String} {v w value : α} {rest members pairs : List (String × α)}

theorem insert_cons_of_lt (hlt : key < k) :
    insert key v ((k, w) :: rest) = (key, v) :: (k, w) :: rest := by
  have hne : key ≠ k := fun hsame => String.lt_irrefl k (hsame ▸ hlt)
  rw [insert, if_neg hne, if_pos hlt]

theorem insert_cons_self : insert k v ((k, w) :: rest) = (k, v) :: rest := by
  rw [insert, if_pos rfl]

theorem insert_cons_of_gt (hgt : k < key) :
    insert key v ((k, w) :: rest) = (k, w) :: insert key v rest := by
  have hne : key ≠ k := fun hsame => String.lt_irrefl k (hsame ▸ hgt)
  rw [insert, if_neg hne, if_neg (String.lt_asymm hgt)]

theorem insert_comm_of_lt (hlt : key < k) (members : List (String × α)) :
    insert key v (insert k w members) = insert k w (insert key v members) := by
  induction members with
  | nil =>
      have hnil : insert key v [] = [(key, v)] := rfl
      have hother : insert k w [] = [(k, w)] := rfl
      rw [hnil, hother, insert_cons_of_lt hlt, insert_cons_of_gt hlt, hother]
  | cons m rest ih =>
      obtain ⟨first, u⟩ := m
      rcases Std.lt_trichotomy key first with hbefore | rfl | hafter
      · -- the smaller key comes before whatever the list begins with
        rw [insert_cons_of_lt hbefore, insert_cons_of_gt hlt]
        rcases Std.lt_trichotomy k first with hk | rfl | hk
        · rw [insert_cons_of_lt hk, insert_cons_of_lt hlt]
        · rw [insert_cons_self, insert_cons_of_lt hlt]
        · rw [insert_cons_of_gt hk, insert_cons_of_lt hbefore]
      · rw [insert_cons_of_gt hlt, insert_cons_self, insert_cons_self, insert_cons_of_gt hlt]
      · have hk : first < k := String.lt_trans hafter hlt
        rw [insert_cons_of_gt hk, insert_cons_of_gt hafter, insert_cons_of_gt hafter,
          insert_cons_of_gt hk, ih]

theorem insert_comm (hne : key ≠ k) (members : List (String × α)) :
    insert key v (insert k w members) = insert k w (insert key v members) := by
  rcases Std.lt_trichotomy key k with hlt | hsame | hgt
  · exact insert_comm_of_lt hlt members
  · exact absurd hsame hne
  · exact (insert_comm_of_lt hgt members).symm

/-- Of two values that are put under one key the later one stays. -/
theorem insert_insert (key : String) (v w : α) (members : List (String × α)) :
    insert key v (insert key w members) = insert key v members := by
  induction members with
  | nil => exact insert_cons_self
  | cons m rest ih =>
      obtain ⟨first, u⟩ := m
      rcases Std.lt_trichotomy key first with hbefore | rfl | hafter
      · rw [insert_cons_of_lt hbefore, insert_cons_self, insert_cons_of_lt hbefore]
      · rw [insert_cons_self, insert_cons_self, insert_cons_self]
      · rw [insert_cons_of_gt hafter, insert_cons_of_gt hafter, insert_cons_of_gt hafter, ih]

/-! ## Keys -/

def keys (members : List (String × α)) : List String := members.map (·.1)

theorem mem_keys_insert :
    k ∈ keys (insert key value members) ↔ k = key ∨ k ∈ keys members := by
  induction members with
  | nil => simp [insert, keys]
  | cons m rest ih =>
      obtain ⟨l, w⟩ := m
      simp only [insert]
      split
      · rename_i hsame
        simp [keys, hsame]
      · split
        · simp [keys]
        · have hrest : k ∈ keys ((l, w) :: insert key value rest) ↔
              k = l ∨ k ∈ keys (insert key value rest) := by simp [keys]
          rw [hrest, ih]
          simp only [keys, List.map_cons, List.mem_cons, or_left_comm]

theorem mem_keys_erase :
    k ∈ keys (erase key members) ↔ k ∈ keys members ∧ k ≠ key := by
  simp only [keys, erase, List.mem_map, List.mem_filter, decide_eq_true_eq]
  constructor
  · rintro ⟨m, ⟨hm, hne⟩, rfl⟩
    exact ⟨⟨m, hm, rfl⟩, hne⟩
  · rintro ⟨⟨m, hm, rfl⟩, hne⟩
    exact ⟨m, ⟨hm, hne⟩, rfl⟩

theorem mem_of_mem_insert {m : String × α} (hm : m ∈ insert key value members) :
    m = (key, value) ∨ m ∈ members := by
  induction members with
  | nil => exact .inl (List.mem_singleton.1 hm)
  | cons first rest ih =>
      simp only [insert] at hm
      split at hm
      · rcases List.mem_cons.1 hm with hnew | hrest
        · exact .inl hnew
        · exact .inr (List.mem_cons_of_mem _ hrest)
      · split at hm
        · exact List.mem_cons.1 hm
        · rcases List.mem_cons.1 hm with hfirst | hrest
          · exact .inr (hfirst ▸ List.mem_cons_self ..)
          · exact (ih hrest).imp_right (List.mem_cons_of_mem _)

theorem get?_of_mem
    {m : String × α} (hkeys : (keys members).Nodup) (hm : m ∈ members) :
    get? members m.1 = some m.2 := by
  induction members with
  | nil => cases hm
  | cons first rest ih =>
      obtain ⟨hfirst, hrest⟩ := List.nodup_cons.1 hkeys
      rw [get?_cons]
      rcases List.mem_cons.1 hm with rfl | hlater
      · exact if_pos rfl
      · have hne : m.1 ≠ first.1 := fun hsame => hfirst (List.mem_map.2 ⟨m, hlater, hsame⟩)
        rw [if_neg hne, ih hrest hlater]

/-! ## Ascending keys -/

def Ascending (members : List (String × α)) : Prop := members.Pairwise fun m n => m.1 < n.1

theorem Ascending.nodup (hmembers : Ascending members) : (keys members).Nodup := by
  refine List.pairwise_map.2 (hmembers.imp ?_)
  intro m n hlt hsame
  exact String.lt_irrefl n.1 (hsame ▸ hlt)

theorem Ascending.insert (hmembers : Ascending members) : Ascending (insert key value members) := by
  induction members with
  | nil => exact List.pairwise_singleton _ _
  | cons m rest ih =>
      obtain ⟨first, u⟩ := m
      obtain ⟨hfirst, hrest⟩ := List.pairwise_cons.1 hmembers
      rcases Std.lt_trichotomy key first with hbefore | rfl | hafter
      · rw [insert_cons_of_lt hbefore]
        refine List.pairwise_cons.2 ⟨?_, hmembers⟩
        intro m hm
        rcases List.mem_cons.1 hm with rfl | hm
        · exact hbefore
        · exact String.lt_trans hbefore (hfirst m hm)
      · rw [insert_cons_self]
        exact List.pairwise_cons.2 ⟨hfirst, hrest⟩
      · rw [insert_cons_of_gt hafter]
        refine List.pairwise_cons.2 ⟨?_, ih hrest⟩
        intro m hm
        rcases mem_of_mem_insert hm with rfl | hm
        · exact hafter
        · exact hfirst m hm

/-- To put a pair in that is there changes nothing. -/
theorem Ascending.insert_of_mem
    (hmembers : Ascending members) {m : String × α} (hm : m ∈ members) :
    Keyed.insert m.1 m.2 members = members := by
  induction members with
  | nil => cases hm
  | cons first rest ih =>
      obtain ⟨hfirst, hrest⟩ := List.pairwise_cons.1 hmembers
      rcases List.mem_cons.1 hm with rfl | hlater
      · exact insert_cons_self
      · rw [insert_cons_of_gt (hfirst m hlater), ih hrest hlater]

/-- A key that is greater than all others is put at the end. -/
theorem insert_of_greatest (hgreatest : ∀ m ∈ members, m.1 < key) :
    insert key value members = members ++ [(key, value)] := by
  induction members with
  | nil => rfl
  | cons m rest ih =>
      rw [List.forall_mem_cons] at hgreatest
      rw [insert_cons_of_gt hgreatest.1, ih hgreatest.2, List.cons_append]

theorem ofList_append_singleton (pairs : List (String × α)) (m : String × α) :
    ofList (pairs ++ [m]) = insert m.1 m.2 (ofList pairs) :=
  List.foldl_append

theorem ascending_ofList (pairs : List (String × α)) : Ascending (ofList pairs) := by
  induction pairs using List.reverseRecOn with
  | nil => exact List.Pairwise.nil
  | append_singleton pairs m ih =>
      rw [ofList_append_singleton]
      exact ih.insert

theorem mem_of_mem_ofList {m : String × α} (hm : m ∈ ofList pairs) : m ∈ pairs := by
  induction pairs using List.reverseRecOn with
  | nil => cases hm
  | append_singleton pairs last ih =>
      rw [ofList_append_singleton] at hm
      rcases mem_of_mem_insert hm with rfl | hm
      · exact List.mem_append_right _ (List.mem_singleton_self _)
      · exact List.mem_append_left _ (ih hm)

theorem Ascending.ofList_eq (hmembers : Ascending members) : ofList members = members := by
  induction members using List.reverseRecOn with
  | nil => rfl
  | append_singleton members last ih =>
      obtain ⟨hmembers, -, hlast⟩ := List.pairwise_append.1 hmembers
      have hgreatest : ∀ m ∈ members, m.1 < last.1 :=
        fun m hm => hlast m hm last (List.mem_singleton_self last)
      rw [ofList_append_singleton, ih hmembers, insert_of_greatest hgreatest]

/-- Where no key comes twice, the keyed list holds what the pairs do. -/
theorem get?_ofList (hpairs : (keys pairs).Nodup) (k : String) :
    get? (ofList pairs) k = get? pairs k := by
  induction pairs using List.reverseRecOn with
  | nil => rfl
  | append_singleton pairs last ih =>
      rw [keys, List.map_append, List.nodup_append] at hpairs
      obtain ⟨hpairs, -, hlast⟩ := hpairs
      rw [ofList_append_singleton, get?_insert, ih hpairs]
      have hsplit : get? (pairs ++ [last]) k = (get? pairs k).or (get? [last] k) :=
        List.lookup_append
      rw [hsplit]
      split
      · rename_i hsame
        have hnone : get? pairs k = none := by
          rw [get?, List.lookup_eq_none_iff]
          intro m hm
          have hne : m.1 ≠ last.1 :=
            hlast m.1 (List.mem_map_of_mem hm) last.1 (List.mem_singleton_self _)
          simpa [hsame] using Ne.symm hne
        rw [hnone, Option.none_or, hsame, get?_cons, if_pos rfl]
      · rename_i hother
        rw [get?_cons, if_neg hother, get?_nil, Option.or_none]

end RecordGrid.Keyed
