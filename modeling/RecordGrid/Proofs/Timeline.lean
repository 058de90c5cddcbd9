import Mathlib.Data.List.Basic
import RecordGrid.Proofs.History

/-!
# Histories as timelines

A state that is worked on, together with its history, is one line of states with
a cursor on it.  Undo and redo move the cursor and leave the line alone.  A
change that is recorded cuts off what lies ahead of the cursor, and where the
line gets too long, the oldest change goes.
-/

namespace RecordGrid

variable {α : Type}

/-- A state that is worked on, and its history. -/
structure Journal (α : Type) where
  current : α
  history : History α

namespace Journal

/-- What happens to a state that is worked on. -/
inductive Move (α : Type) where
  /-- The state becomes another one, and the history is not told. -/
  | become (state : α)
  /-- A change is made, which leads to a state, and recorded. -/
  | record (made : HistoryEntry α)
  | undo
  | redo
  | clear

/-- Undo and redo lead nowhere where there is nothing to undo or redo. -/
def arrive (j : Journal α) : Option (α × History α) → Journal α
  | some (state, history) => ⟨state, history⟩
  | none => j

def move (j : Journal α) : Move α → Journal α
  | .become state => { j with current := state }
  | .record made => ⟨made.state, j.history.record made.description j.current⟩
  | .undo => j.arrive (j.history.undo j.current)
  | .redo => j.arrive (j.history.redo j.current)
  | .clear => { j with history := j.history.clear }

def run (j : Journal α) (moves : List (Move α)) : Journal α := moves.foldl move j

end Journal

/-- A line of states: one to begin with, and the changes that led from each to
the next, with the states that they led to. -/
structure Timeline (α : Type) where
  origin : α
  changes : List (HistoryEntry α) := []
  /-- How many of the changes are in effect. -/
  position : Nat := 0

namespace Timeline

variable {t : Timeline α}

/-- The state that changes lead to, each of which has the state after it. -/
def stateAfter (start : α) (changes : List (HistoryEntry α)) : α :=
  changes.foldl (fun _ made => made.state) start

/-- The changes, each with the state before it. -/
def statesBefore : α → List (HistoryEntry α) → List (HistoryEntry α)
  | _, [] => []
  | start, made :: rest => ⟨made.description, start⟩ :: statesBefore made.state rest

theorem stateAfter_append (start : α) (earlier later : List (HistoryEntry α)) :
    stateAfter start (earlier ++ later) = stateAfter (stateAfter start earlier) later :=
  List.foldl_append

theorem statesBefore_append (start : α) (earlier later : List (HistoryEntry α)) :
    statesBefore start (earlier ++ later) =
      statesBefore start earlier ++ statesBefore (stateAfter start earlier) later := by
  induction earlier generalizing start with
  | nil => rfl
  | cons made rest ih =>
      rw [List.cons_append, statesBefore, statesBefore, ih, List.cons_append]
      rfl

@[simp] theorem length_statesBefore (start : α) (changes : List (HistoryEntry α)) :
    (statesBefore start changes).length = changes.length := by
  induction changes generalizing start with
  | nil => rfl
  | cons made rest ih => rw [statesBefore, List.length_cons, ih, List.length_cons]

def past (t : Timeline α) : List (HistoryEntry α) := t.changes.take t.position

def future (t : Timeline α) : List (HistoryEntry α) := t.changes.drop t.position

/-- The state at the cursor. -/
def current (t : Timeline α) : α := stateAfter t.origin t.past

/-- Another state in the place of the one at the cursor. -/
def become (state : α) (t : Timeline α) : Timeline α :=
  match t.position with
  | 0 => { t with origin := state }
  | n + 1 => { t with changes := t.changes.modify n fun made => { made with state } }

/-- The line without its first state. -/
def forgetOldest (t : Timeline α) : Timeline α :=
  match t.changes with
  | [] => t
  | made :: rest => ⟨made.state, rest, t.position - 1⟩

/-- A change at the cursor in the place of those ahead of it, with room for some
number of changes. -/
def record (room : Nat) (made : HistoryEntry α) (t : Timeline α) : Timeline α :=
  let longer : Timeline α := ⟨t.origin, t.past ++ [made], t.position + 1⟩
  if t.position < room then longer else longer.forgetOldest

def move (room : Nat) (t : Timeline α) : Journal.Move α → Timeline α
  | .become state => t.become state
  | .record made => t.record room made
  | .undo => { t with position := t.position - 1 }
  | .redo => { t with position := min (t.position + 1) t.changes.length }
  | .clear => { origin := t.current }

def run (room : Nat) (t : Timeline α) (moves : List (Journal.Move α)) : Timeline α :=
  moves.foldl (move room) t

/-- The line with the cursor between two parts of it. -/
def between (origin : α) (past future : List (HistoryEntry α)) : Timeline α :=
  ⟨origin, past ++ future, past.length⟩

theorem exists_between (hwithin : t.position ≤ t.changes.length) :
    ∃ past future, t = between t.origin past future := by
  refine ⟨t.past, t.future, ?_⟩
  rw [between, past, future, List.take_append_drop, List.length_take_of_le hwithin]

section Between

variable {origin : α} {past future : List (HistoryEntry α)}

@[simp] theorem past_between : (between origin past future).past = past :=
  List.take_left

@[simp] theorem future_between : (between origin past future).future = future :=
  List.drop_left

@[simp] theorem current_between :
    (between origin past future).current = stateAfter origin past := by
  rw [current, past_between]
  rfl

theorem become_between_nil (state : α) :
    (between origin [] future).become state = between state [] future := rfl

theorem become_between (made : HistoryEntry α) (state : α) :
    (between origin (past ++ [made]) future).become state =
      between origin (past ++ [{ made with state }]) future := by
  have hposition : past.length < (past ++ made :: future).length := by simp
  simp [become, between, List.modify_eq_take_cons_drop hposition]

theorem undo_between (room : Nat) (made : HistoryEntry α) :
    (between origin (past ++ [made]) future).move room .undo =
      between origin past (made :: future) := by
  simp [move, between]

theorem redo_between (room : Nat) (made : HistoryEntry α) :
    (between origin past (made :: future)).move room .redo =
      between origin (past ++ [made]) future := by
  simp [move, between]

theorem redo_between_nil (room : Nat) :
    (between origin past []).move room .redo = between origin past [] := by
  simp [move, between]

theorem record_between {room : Nat} (hroom : past.length < room) (made : HistoryEntry α) :
    (between origin past future).record room made = between origin (past ++ [made]) [] := by
  simp [record, between, hroom, Timeline.past]

theorem record_between_full {room : Nat} {oldest : HistoryEntry α}
    (hroom : room = past.length + 1) (made : HistoryEntry α) :
    (between origin (oldest :: past) future).record room made =
      between oldest.state (past ++ [made]) [] := by
  simp [record, between, hroom, Timeline.past, forgetOldest]

end Between

end Timeline

namespace Journal

open Timeline (stateAfter statesBefore stateAfter_append statesBefore_append length_statesBefore)

variable {room : Nat} {j : Journal α} {t : Timeline α}

/-- The journal stands at the cursor of the line: its stacks are the two parts of
the line, and the line fits into the room of one stack. -/
structure Follows (room : Nat) (j : Journal α) (t : Timeline α) : Prop where
  positive : 1 ≤ room
  limit : j.history.limit = room
  fits : t.changes.length ≤ room
  within : t.position ≤ t.changes.length
  current : j.current = t.current
  undoStack : j.history.undoStack = (statesBefore t.origin t.past).reverse
  redoStack : j.history.redoStack = t.future

namespace Follows

theorem length_undoStack (hj : j.Follows room t) : j.history.undoStack.length = t.position := by
  rw [hj.undoStack, List.length_reverse, length_statesBefore, Timeline.past,
    List.length_take_of_le hj.within]

theorem length_redoStack (hj : j.Follows room t) :
    j.history.redoStack.length = t.changes.length - t.position := by
  rw [hj.redoStack, Timeline.future, List.length_drop]

theorem historyFits (hj : j.Follows room t) : j.history.Fits where
  positive := by
    rw [hj.limit]
    exact hj.positive
  entries := by
    have hwithin := hj.within
    have hfits := hj.fits
    rw [hj.length_undoStack, hj.length_redoStack, hj.limit]
    omega

theorem start (limit : Nat) (state : α) :
    Follows (max limit 1) ⟨state, History.withLimit limit⟩ ⟨state, [], 0⟩ where
  positive := Nat.le_max_right ..
  limit := rfl
  fits := Nat.zero_le _
  within := Nat.le_refl _
  current := rfl
  undoStack := rfl
  redoStack := rfl

section Between

variable {origin : α} {past future : List (HistoryEntry α)}

theorem between_iff :
    j.Follows room (Timeline.between origin past future) ↔
      1 ≤ room ∧ j.history.limit = room ∧ past.length + future.length ≤ room ∧
        j.current = stateAfter origin past ∧
        j.history.undoStack = (statesBefore origin past).reverse ∧
        j.history.redoStack = future := by
  constructor
  · intro hj
    refine ⟨hj.positive, hj.limit, ?_, ?_, ?_, ?_⟩
    · simpa [Timeline.between] using hj.fits
    · simpa using hj.current
    · have hstack := hj.undoStack
      rwa [Timeline.past_between] at hstack
    · simpa using hj.redoStack
  · rintro ⟨hpositive, hlimit, hfits, hcurrent, hundo, hredo⟩
    refine ⟨hpositive, hlimit, ?_, ?_, ?_, ?_, ?_⟩
    · simpa [Timeline.between] using hfits
    · simp [Timeline.between]
    · simpa using hcurrent
    · rw [Timeline.past_between]
      exact hundo
    · simpa using hredo

end Between

theorem become (hj : j.Follows room t) (state : α) :
    Follows room { j with current := state } (t.become state) := by
  obtain ⟨past, future, ht⟩ := Timeline.exists_between hj.within
  rw [ht] at hj ⊢
  obtain ⟨hpositive, hlimit, hfits, -, hundo, hredo⟩ := between_iff.1 hj
  rcases List.eq_nil_or_concat' past with rfl | ⟨earlier, made, rfl⟩
  · rw [Timeline.become_between_nil, between_iff]
    exact ⟨hpositive, hlimit, hfits, rfl, hundo, hredo⟩
  · rw [Timeline.become_between, between_iff]
    refine ⟨hpositive, hlimit, by simpa using hfits, ?_, ?_, hredo⟩
    · rw [stateAfter_append]
      rfl
    · rw [statesBefore_append] at hundo ⊢
      exact hundo

theorem undo (hj : j.Follows room t) : (j.move .undo).Follows room (t.move room .undo) := by
  obtain ⟨past, future, ht⟩ := Timeline.exists_between hj.within
  have hhistory := hj.historyFits
  rw [ht] at hj ⊢
  obtain ⟨hpositive, hlimit, hfits, hcurrent, hundo, hredo⟩ := between_iff.1 hj
  rcases List.eq_nil_or_concat' past with rfl | ⟨earlier, made, rfl⟩
  · have hnone : j.history.undo j.current = none := by
      simp only [History.undo, hundo, statesBefore, List.reverse_nil]
    simp only [Journal.move, hnone, arrive]
    exact hj
  · have hstack : j.history.undoStack =
        ⟨made.description, stateAfter t.origin earlier⟩ ::
          (statesBefore t.origin earlier).reverse := by
      rw [hundo, statesBefore_append, List.reverse_append]
      rfl
    have hnow : j.current = made.state := by
      rw [hcurrent, stateAfter_append]
      rfl
    rw [Timeline.undo_between, between_iff]
    simp only [Journal.move, hhistory.undo_cons hstack, arrive]
    refine ⟨hpositive, hlimit, ?_, trivial, trivial, ?_⟩
    · simp only [List.length_append, List.length_cons, List.length_nil] at hfits ⊢
      omega
    · rw [hnow, hredo]

theorem redo (hj : j.Follows room t) : (j.move .redo).Follows room (t.move room .redo) := by
  obtain ⟨past, future, ht⟩ := Timeline.exists_between hj.within
  have hhistory := hj.historyFits
  rw [ht] at hj ⊢
  obtain ⟨hpositive, hlimit, hfits, hcurrent, hundo, hredo⟩ := between_iff.1 hj
  cases future with
  | nil =>
      have hnone : j.history.redo j.current = none := by
        simp only [History.redo, hredo]
      simp only [Journal.move, hnone, arrive]
      rw [Timeline.redo_between_nil]
      exact hj
  | cons made later =>
      rw [Timeline.redo_between, between_iff]
      simp only [Journal.move, hhistory.redo_cons hredo, arrive]
      refine ⟨hpositive, hlimit, ?_, ?_, ?_, trivial⟩
      · simp only [List.length_append, List.length_cons, List.length_nil] at hfits ⊢
        omega
      · rw [stateAfter_append]
        rfl
      · rw [statesBefore_append, List.reverse_append, hundo, hcurrent]
        rfl

theorem record (hj : j.Follows room t) (made : HistoryEntry α) :
    (j.move (.record made)).Follows room (t.record room made) := by
  obtain ⟨past, future, ht⟩ := Timeline.exists_between hj.within
  rw [ht] at hj ⊢
  obtain ⟨hpositive, hlimit, hfits, hcurrent, hundo, -⟩ := between_iff.1 hj
  have hstack : (⟨made.description, j.current⟩ :: j.history.undoStack : List (HistoryEntry α)) =
      (statesBefore t.origin (past ++ [made])).reverse := by
    rw [statesBefore_append, List.reverse_append, hundo, hcurrent]
    rfl
  simp only [Journal.move, History.record, hstack, hlimit]
  by_cases hroom : past.length < room
  · have hlonger : (past ++ [made]).length ≤ room := by
      rw [List.length_append, List.length_singleton]
      exact hroom
    rw [Timeline.record_between hroom, between_iff]
    refine ⟨hpositive, rfl, hlonger, ?_, ?_, rfl⟩
    · rw [stateAfter_append]
      rfl
    · refine List.take_of_length_le ?_
      rw [List.length_reverse, length_statesBefore]
      exact hlonger
  · cases past with
    | nil => exact absurd hpositive hroom
    | cons oldest rest =>
        have hfull : room = rest.length + 1 := by
          simp only [List.length_cons] at hfits hroom
          omega
        rw [Timeline.record_between_full hfull, between_iff]
        refine ⟨hpositive, rfl, ?_, ?_, ?_, rfl⟩
        · simp [hfull]
        · rw [stateAfter_append]
          rfl
        · rw [List.cons_append, statesBefore, List.reverse_cons]
          exact List.take_left' (by simp [hfull])

theorem clear (hj : j.Follows room t) : (j.move .clear).Follows room (t.move room .clear) where
  positive := hj.positive
  limit := hj.limit
  fits := Nat.zero_le _
  within := Nat.le_refl _
  current := hj.current
  undoStack := rfl
  redoStack := rfl

theorem move (hj : j.Follows room t) (m : Move α) :
    (j.move m).Follows room (t.move room m) := by
  cases m with
  | become state => exact hj.become state
  | record made => exact hj.record made
  | undo => exact hj.undo
  | redo => exact hj.redo
  | clear => exact hj.clear

theorem run (hj : j.Follows room t) (moves : List (Move α)) :
    (j.run moves).Follows room (t.run room moves) := by
  induction moves generalizing j t with
  | nil => exact hj
  | cons m rest ih => exact ih (hj.move m)

/-- Of the states that are recorded one after the other, and those before them,
the history keeps the newest. -/
theorem undoStack_records (hj : j.Follows room t) (later : List (HistoryEntry α)) :
    (j.run (later.map .record)).history.undoStack =
      ((statesBefore j.current later).reverse ++ j.history.undoStack).take room := by
  induction later generalizing j t with
  | nil =>
      have hlength : j.history.undoStack.length ≤ room := by
        rw [hj.length_undoStack]
        exact Nat.le_trans hj.within hj.fits
      exact (List.take_of_length_le hlength).symm
  | cons made rest ih =>
      have hnext : (j.move (.record made)).history.undoStack =
          (⟨made.description, j.current⟩ :: j.history.undoStack).take room := by
        rw [← hj.limit]
        rfl
      have hrest := ih (hj.record made)
      rw [hnext, List.take_append, List.take_take, Nat.min_eq_left (Nat.sub_le ..),
        ← List.take_append] at hrest
      rw [statesBefore, List.reverse_cons, List.append_assoc]
      exact hrest

end Follows

end Journal

namespace History

open Timeline (statesBefore)

/-- What undo comes to when it is made again and again, every state under the
description of the change that is taken back. -/
def undoSteps : Nat → History α → α → List (HistoryEntry α)
  | 0, _, _ => []
  | k + 1, h, current =>
      match h.undoDescription?, h.undo current with
      | some description, some (state, next) => ⟨description, state⟩ :: undoSteps k next state
      | _, _ => []

theorem Fits.undoSteps_eq {h : History α} (hfits : h.Fits) (k : Nat) (current : α) :
    h.undoSteps k current = h.undoStack.take k := by
  induction k generalizing h current with
  | zero => rfl
  | succ k ih =>
      cases hstack : h.undoStack with
      | nil => simp only [undoSteps, undoDescription?, hstack, List.head?_nil, Option.map_none,
          List.take_nil]
      | cons e rest =>
          have hundo := hfits.undo_cons hstack current
          simp only [undoSteps, undoDescription?, hstack, List.head?_cons, Option.map_some, hundo,
            ih (hfits.undo hundo), List.take_succ_cons]

theorem undoStack_record {h : History α} {room : Nat} (hlimit : h.limit = room + 1)
    (hroom : h.undoStack.length ≤ room + 1) (description : String) (before : α) :
    (h.record description before).undoStack =
      ⟨description, before⟩ ::
        if h.undoStack.length < room + 1 then h.undoStack else h.undoStack.dropLast := by
  simp only [History.record, hlimit, List.take_succ_cons]
  split
  · rename_i hshort
    rw [List.take_of_length_le (Nat.le_of_lt_succ hshort)]
  · rename_i hfull
    have hlength : h.undoStack.length - 1 = room := by omega
    rw [List.dropLast_eq_take, hlength]

/-- Whatever happens to a state that is worked on, its history is a line of states
with a cursor at the current one, and both stacks together hold no more than one
has room for.  So undo and redo move one entry and lose none.  What is recorded
empties the redo stack and at most drops the oldest undo entry; undo comes to the
states that were recorded, the newest first, under their descriptions; and redo
after undo leads to both stacks as they were. -/
theorem history_is_timeline (limit : Nat) (start : α) (moves : List (Journal.Move α)) :
    let room := max limit 1
    let j := Journal.run ⟨start, .withLimit limit⟩ moves
    let h := j.history
    j.Follows room (Timeline.run room { origin := start } moves) ∧
    h.undoStack.length + h.redoStack.length ≤ room ∧
    (∀ e rest, h.undoStack = e :: rest →
      h.undo j.current =
        some (e.state,
          { h with undoStack := rest, redoStack := ⟨e.description, j.current⟩ :: h.redoStack })) ∧
    (∀ e rest, h.redoStack = e :: rest →
      h.redo j.current =
        some (e.state,
          { h with undoStack := ⟨e.description, j.current⟩ :: h.undoStack, redoStack := rest })) ∧
    (∀ description before,
      (h.record description before).redoStack = [] ∧
      (h.record description before).undoStack =
        ⟨description, before⟩ ::
          if h.undoStack.length < room then h.undoStack else h.undoStack.dropLast) ∧
    (∀ later k,
      let j' := j.run (later.map .record)
      j'.history.undoSteps k j'.current =
        (((statesBefore j.current later).reverse ++ h.undoStack).take room).take k) ∧
    ∀ state next, h.undo j.current = some (state, next) →
      next.redo state = some (j.current, h) := by
  intro room j h
  have hj : j.Follows room (Timeline.run room { origin := start } moves) :=
    (Journal.Follows.start limit start).run moves
  have hfits : h.Fits := hj.historyFits
  have hentries : h.undoStack.length + h.redoStack.length ≤ room := by
    rw [← hj.limit]
    exact hfits.entries
  refine ⟨hj, hentries, fun e rest hstack => hfits.undo_cons hstack _,
    fun e rest hstack => hfits.redo_cons hstack _, ?_, ?_, fun state next => hfits.redo_undo⟩
  · intro description before
    have hroom : h.undoStack.length ≤ room := Nat.le_trans (Nat.le_add_right ..) hentries
    obtain ⟨n, hn⟩ : ∃ n, room = n + 1 := ⟨room - 1, (Nat.sub_add_cancel hj.positive).symm⟩
    rw [hn] at hroom ⊢
    exact ⟨rfl, undoStack_record (hj.limit.trans hn) hroom description before⟩
  · intro later k j'
    have hj' := hj.run (later.map .record)
    rw [hj'.historyFits.undoSteps_eq, hj.undoStack_records later]

/-- Of four changes three are kept. -/
example :
    let made : List (HistoryEntry Nat) := [⟨"A", 1⟩, ⟨"B", 2⟩, ⟨"C", 3⟩, ⟨"D", 4⟩]
    let j := Journal.run ⟨0, .withLimit 3⟩ (made.map .record)
    j.history.undoSteps 4 j.current = [⟨"D", 3⟩, ⟨"C", 2⟩, ⟨"B", 1⟩] := rfl

end History
end RecordGrid
