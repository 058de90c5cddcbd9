import Mathlib
import RecordGrid.Proofs.Session.Idle
import RecordGrid.Proofs.Session.Reachable
import RecordGrid.Proofs.Store.Consistent
import RecordGrid.Proofs.Store.Issued

/-!
# The grid in a reply

Whatever changes the grid is answered with the grid.  A question for it right
after shows the same, with one exception: an edit of a cell is answered with the
grid as it is before the lookups of the edit are given up, so the reply counts
lookups that are no longer pending when it is read.
-/

namespace RecordGrid

/-- The grid in the result of a command, where the result holds the grid. -/
def Command.snapshotIn? : Command → Json → Option Json
  | .loadSchema _, result | .perform _, result | .snapshot, result => some result
  | .updateCell .., result => result.get? "snapshot"
  | _, _ => none

namespace Store

variable {s : Store}

/-- The tickets of the lookups that are given up once a command is answered. -/
def dropped (s : Store) : Command → List Ticket
  | .updateCell row fieldId raw => (s.step (.updateCell row fieldId raw)).reply.tickets
  | _ => []

theorem abandonAll_eq (requests : List Request) (s : Store) :
    s.abandonAll requests =
      { s with lookups := s.lookups.retireAll (requests.map (·.ticket)) } := by
  induction requests generalizing s with
  | nil => rfl
  | cons r rest ih =>
      rw [abandonAll, List.foldl_cons]
      exact ih (s.abandonLookup r.ticket)

/-! ## What a reply shows -/

theorem get?_snapshot_of_lookups
    (s : Store) (l : Lookups) {field : String} (hfield : field ≠ "pendingLookups") :
    Json.get? (snapshot { s with lookups := l }) field = s.snapshot.get? field := by
  simp [snapshot, Json.get?, Json.asMembers?, Keyed.get?_cons, hfield, pageInfo]

theorem pending_snapshot (s : Store) :
    s.snapshot.get? "pendingLookups" = some (.ofNat s.lookups.pending) := rfl

/-- The result holds the grid of the store that the command has reached before its
lookups are given up. -/
structure Shows (s : Store) (c : Command) (result : Json) (reached : Store) : Prop where
  shown : c.snapshotIn? result = some reached.snapshot
  store : (s.answer c).store = { reached with lookups := reached.lookups.retireAll (s.dropped c) }
  pending :
    (s.answer c).store.lookups.pending + (s.dropped c).length = reached.lookups.pending

theorem shows_of_none_dropped
    {c : Command} {result : Json} (hdropped : s.dropped c = [])
    (hshown : c.snapshotIn? result = some (s.answer c).store.snapshot) :
    s.Shows c result (s.answer c).store where
  shown := hshown
  store := by
    rw [hdropped]
    rfl
  pending := by
    rw [hdropped]
    rfl

/-- An edit that is answered with a result has been accepted. -/
theorem exists_started
    {row : Nat} {fieldId : String} {raw result : Json}
    (hresult : (s.answer (.updateCell row fieldId raw)).response = .ok result) :
    ∃ started, (s.updateCell row fieldId raw).reply = .requests (.ok started) := by
  simp only [Store.answer] at hresult
  rcases s.updateCell_cases row fieldId raw with
    ⟨e, hrefused⟩ | ⟨value, -, hkept⟩ | ⟨value, -, -, hwritten⟩
  · rw [hrefused] at hresult
    cases hresult
  · exact ⟨_, by rw [hkept, quiet_reply]⟩
  · exact ⟨_, by rw [hwritten, write_eq, publish_reply]⟩

theorem shows_edit
    (hs : Reachable Schema.IsRead s) {row : Nat} {fieldId : String} {raw result : Json}
    (hresult : (s.answer (.updateCell row fieldId raw)).response = .ok result) :
    s.Shows (.updateCell row fieldId raw) result (s.updateCell row fieldId raw).store := by
  obtain ⟨started, hstarted⟩ := exists_started hresult
  have hdropped : s.dropped (.updateCell row fieldId raw) = started.map (·.ticket) := by
    simp only [dropped, step, hstarted, Reply.tickets]
  have hstore : (s.answer (.updateCell row fieldId raw)).store =
      (s.updateCell row fieldId raw).store.abandonAll started := by
    simp only [Store.answer, answerEdit, hstarted]
  rw [abandonAll_eq, ← hdropped] at hstore
  refine ⟨?_, hstore, ?_⟩
  · simp only [Store.answer, answerEdit, hstarted, Response.ok.injEq] at hresult
    rw [← hresult]
    rfl
  · -- the tickets were handed out by this very edit, so all of them still count
    have hreached : Reachable Schema.IsRead (s.step (.updateCell row fieldId raw)).store :=
      hs.step trivial
    rw [hstore]
    exact hreached.distinct.pending_retireAll (s.nodup_tickets (.updateCell row fieldId raw))
      fun t ht => isCurrent_of_mem_tickets hs.consistent.grid.distinct ht

/-- The result of a command that may change something holds the grid, and so does
that of the question for the grid. -/
theorem exists_shows
    (hs : Reachable Schema.IsRead s) {c : Command} (hc : c.asks = false ∨ c = .snapshot)
    {result : Json} (hresult : (s.answer c).response = .ok result) :
    ∃ reached, s.Shows c result reached := by
  rcases hc with hc | rfl
  · cases c with
    | loadSchema document =>
        refine ⟨_, shows_of_none_dropped rfl ?_⟩
        simp only [Store.answer] at hresult ⊢
        split at hresult
        · cases hresult
          rfl
        · cases hresult
    | updateCell row fieldId raw => exact ⟨_, shows_edit hs hresult⟩
    | perform op =>
        refine ⟨_, shows_of_none_dropped rfl ?_⟩
        cases hresult
        rfl
    | _ => cases hc
  · refine ⟨s, shows_of_none_dropped rfl ?_⟩
    cases hresult
    rfl

theorem ofLine?_entry :
    Command.ofLine? "[\"update_cell\",0,\"code\",\"x\"]" =
      some (.updateCell 0 "code" (.str "x")) := by cbv

theorem ofLine?_question : Command.ofLine? "[\"get_snapshot\"]" = some .snapshot := by cbv

/-- A line that may change something, once it is answered with a result, is
answered with the grid, and so is the question for the grid.  A question for the
grid right after shows the same in every field but the number of lookups under
way, which the reply gives too high by the lookups that the line started, all of
them given up by then.  Reply and question agree exactly where there are none. -/
theorem reply_counts_dropped_lookups
    (hs : Reachable Schema.IsRead s) {line question : String} {c : Command} {result : Json}
    (hline : Command.ofLine? line = some c) (hc : c.asks = false ∨ c = .snapshot)
    (hresult : (s.answerLine line).response = .ok result)
    (hquestion : Command.ofLine? question = some .snapshot) :
    let next := (s.answerLine line).store
    let dropped := (s.dropped c).length
    ∃ shown told,
      c.snapshotIn? result = some shown ∧
      (next.answerLine question).response = .ok told ∧
      (∀ field, field ≠ "pendingLookups" → shown.get? field = told.get? field) ∧
      told.get? "pendingLookups" = some (.ofNat next.lookups.pending) ∧
      shown.get? "pendingLookups" = some (.ofNat (next.lookups.pending + dropped)) ∧
      (shown = told ↔ dropped = 0) := by
  intro next dropped
  have hnext : next = (s.answer c).store := by simp only [next, answerLine, hline]
  simp only [answerLine, hline] at hresult
  obtain ⟨reached, hreached⟩ := exists_shows hs hc hresult
  have hstore := hnext.trans hreached.store
  have hpending : next.lookups.pending + dropped = reached.lookups.pending := by
    rw [hnext]
    exact hreached.pending
  have htold : (next.answerLine question).response = .ok next.snapshot := by
    simp only [answerLine, hquestion]
    rfl
  refine ⟨reached.snapshot, next.snapshot, hreached.shown, htold, ?_, next.pending_snapshot,
    ?_, ?_⟩
  · intro field hfield
    rw [hstore]
    exact (get?_snapshot_of_lookups reached _ hfield).symm
  · rw [pending_snapshot, hpending]
  · constructor
    · intro hsame
      have hcounts := congrArg (fun j => j.get? "pendingLookups") hsame
      simp only [pending_snapshot, ← hpending, Json.ofNat, Option.some.injEq, Json.int.injEq]
        at hcounts
      omega
    · intro hnone
      have htickets : s.dropped c = [] := List.eq_nil_of_length_eq_zero hnone
      rw [hstore, htickets]
      rfl

/-- A code is entered, and the lookup of its name is given up. -/
theorem reply_counts_dropped_lookup_in_sample :
    let s := ofSchema .builtin .sample
    let line := "[\"update_cell\",0,\"code\",\"x\"]"
    let question := "[\"get_snapshot\"]"
    let c : Command := .updateCell 0 "code" (.str "x")
    let grid := (s.updateCell 0 "code" (.str "x")).store.snapshot
    let result := Json.obj [("snapshot", grid), ("lookupsStarted", .int 0)]
    Reachable Schema.IsRead s ∧ Command.ofLine? line = some c ∧ c.asks = false ∧
      (s.answerLine line).response = .ok result ∧
      Command.ofLine? question = some .snapshot ∧
      ∃ shown told,
        c.snapshotIn? result = some shown ∧
        ((s.answerLine line).store.answerLine question).response = .ok told ∧
        shown.get? "rows" = told.get? "rows" ∧ shown ≠ told := by
  intro s line question c grid result
  have hs : Reachable Schema.IsRead s := .start .builtin Schema.sample_isRead
  have hline : Command.ofLine? line = some c := ofLine?_entry
  have hquestion : Command.ofLine? question = some .snapshot := ofLine?_question
  have hresult : (s.answerLine line).response = .ok result := by
    simp only [answerLine, hline]
    rfl
  obtain ⟨shown, told, hshown, htold, hfields, -, -, hsame⟩ :=
    reply_counts_dropped_lookups hs hline (.inl rfl) hresult hquestion
  have hone : (s.dropped c).length = 1 := rfl
  refine ⟨hs, hline, rfl, hresult, hquestion, shown, told, hshown, htold,
    hfields "rows" (by decide), ?_⟩
  rw [Ne, hsame, hone]
  decide

/-- The reply to an edit tells of a lookup under way, and the answer to the
question that follows tells of none. -/
theorem reply_shows_lookup_given_up :
    let s := ofSchema .builtin .sample
    let answer := s.answerLine "[\"update_cell\",0,\"code\",\"x\"]"
    ∃ result shown told,
      answer.response = .ok result ∧ result.get? "snapshot" = some shown ∧
      (answer.store.answerLine "[\"get_snapshot\"]").response = .ok told ∧
      shown.get? "pendingLookups" = some (.int 1) ∧
      told.get? "pendingLookups" = some (.int 0) := by
  intro s answer
  have hanswer : answer = s.answer (.updateCell 0 "code" (.str "x")) := by
    simp only [answer, answerLine, ofLine?_entry]
  have hpending : answer.store.lookups.pending = 0 := by
    rw [hanswer]
    rfl
  let shown := (s.updateCell 0 "code" (.str "x")).store.snapshot
  refine ⟨.obj [("snapshot", shown), ("lookupsStarted", .int 0)], shown, answer.store.snapshot,
    ?_, rfl, ?_, rfl, ?_⟩
  · rw [hanswer]
    rfl
  · simp only [answerLine, ofLine?_question]
    rfl
  · rw [pending_snapshot, hpending]
    rfl

end Store
end RecordGrid
