/-!
# Keyed lists

A keyed list holds pairs in ascending order of their keys, each key once.
Inserting replaces the value of a key that is there, so the last value given
for a key is the one that is found.
-/

namespace RecordGrid.Keyed

def get? (members : List (String × α)) (key : String) : Option α :=
  members.lookup key

def insert (key : String) (value : α) : List (String × α) → List (String × α)
  | [] => [(key, value)]
  | (k, v) :: rest =>
      if key = k then (key, value) :: rest
      else if key < k then (key, value) :: (k, v) :: rest
      else (k, v) :: insert key value rest

def erase (key : String) (members : List (String × α)) : List (String × α) :=
  members.filter fun m => m.1 ≠ key

/-- The keyed list of pairs in any order, the last one of a key counting. -/
def ofList (pairs : List (String × α)) : List (String × α) :=
  pairs.foldl (fun members m => insert m.1 m.2 members) []

@[simp] theorem get?_nil (key : String) : get? ([] : List (String × α)) key = none := rfl

theorem get?_cons (k : String) (v : α) (rest : List (String × α)) (key : String) :
    get? ((k, v) :: rest) key = if key = k then some v else get? rest key := by
  by_cases h : key = k
  · simp [get?, h]
  · have hk : (key == k) = false := by simpa using h
    simp [get?, List.lookup_cons, h, hk]

/-- A value that was put in is found, and no other key is touched. -/
theorem get?_insert (key : String) (value : α) (members : List (String × α)) (k : String) :
    get? (insert key value members) k = if k = key then some value else get? members k := by
  induction members with
  | nil => simp [insert, get?_cons]
  | cons m rest ih =>
      obtain ⟨l, w⟩ := m
      simp only [insert]
      split
      · next h => subst h; simp only [get?_cons]; split <;> rfl
      · next h =>
          split
          · simp only [get?_cons]
          · simp only [get?_cons, ih]
            by_cases hl : k = l
            · subst hl; simp [Ne.symm h]
            · simp [hl]

/-- A key that was removed is gone, and no other key is touched. -/
theorem get?_erase (key : String) (members : List (String × α)) (k : String) :
    get? (erase key members) k = if k = key then none else get? members k := by
  induction members with
  | nil => simp [erase]
  | cons m rest ih =>
      obtain ⟨l, w⟩ := m
      by_cases h : l = key
      · subst h
        simp only [erase, List.filter_cons] at ih ⊢
        simp only [ne_eq, not_true_eq_false, decide_false, Bool.false_eq_true, if_false, ih,
          get?_cons]
        split <;> rfl
      · simp only [erase, List.filter_cons] at ih ⊢
        simp only [ne_eq, h, not_false_eq_true, decide_true, if_true, get?_cons, ih]
        by_cases hk : k = l
        · subst hk; simp [h]
        · simp [hk]

end RecordGrid.Keyed
