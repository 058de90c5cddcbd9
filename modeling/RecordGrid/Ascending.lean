/-!
# Ascending lists

A finite set is kept as the list of its members in ascending order, each once.
-/

namespace RecordGrid.Ascending

variable {α : Type} [DecidableEq α] [LT α] [DecidableLT α]

def insert (a : α) : List α → List α
  | [] => [a]
  | b :: rest =>
      if a = b then b :: rest
      else if a < b then a :: b :: rest
      else b :: insert a rest

def erase (a : α) (as : List α) : List α := as.filter fun b => b ≠ a

/-- Removes a member, or adds it where it was missing. -/
def toggle (a : α) (as : List α) : List α :=
  if a ∈ as then erase a as else insert a as

/-- The set of the items of a list. -/
def ofList (as : List α) : List α := as.foldr insert []

@[simp] theorem mem_insert (a b : α) (as : List α) : b ∈ insert a as ↔ b = a ∨ b ∈ as := by
  induction as with
  | nil => simp [insert]
  | cons c rest ih =>
      simp only [insert]
      split
      · next h => subst h; simp
      · split
        · simp
        · simp only [List.mem_cons, ih]
          constructor
          · rintro (h | h | h) <;> simp [h]
          · rintro (h | h | h) <;> simp [h]

omit [LT α] [DecidableLT α] in
@[simp] theorem mem_erase (a b : α) (as : List α) : b ∈ erase a as ↔ b ∈ as ∧ b ≠ a := by
  simp [erase]

@[simp] theorem mem_ofList (b : α) (as : List α) : b ∈ ofList as ↔ b ∈ as := by
  induction as with
  | nil => simp [ofList]
  | cons a rest ih =>
      have : ofList (a :: rest) = insert a (ofList rest) := rfl
      simp [this, ih]

end RecordGrid.Ascending
