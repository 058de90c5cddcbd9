import RecordGrid.Proofs.Store.PageTurns
import RecordGrid.Session.Documents
import RecordGrid.Session.Protocol

/-!
# Sessions reach reachable stores

A session starts with what documents say and goes on with what lines say.  Both
bring schemas as documents only, and answer by operations on the store, so all
that holds of the stores that operations lead to holds of the stores of a
session.
-/

namespace RecordGrid

/-! ## What documents and lines ask for -/

namespace Documents

variable {d : Documents} {ops : List Store.Operation}

theorem isRead_of_readSchema {text : Option String} {schema : Schema}
    (hread : readSchema text = .ok (some schema)) : schema.IsRead := by
  unfold readSchema at hread
  split at hread
  · cases hread
  · split at hread
    · cases hread
    · rename_i hschema
      cases hread
      unfold Schema.ofText at hschema
      split at hschema
      · cases hschema
      · exact ⟨_, hschema⟩

theorem exists_of_operations (hops : d.operations = .ok ops) :
    ∃ (schema : Option Schema) (options : Option (List (String × List Choice)))
      (rows : Option (List Row)),
      readSchema d.schema = .ok schema ∧
      ops = (schema.map .loadSchema).toList ++ (options.map .supplyOptions).toList ++
        (rows.map .supplyRows).toList := by
  unfold operations at hops
  cases hschema : readSchema d.schema <;>
    cases hrows : readText .whole (Json.asList? Json.asRow?) d.data <;>
    cases hoptions : readText optionsScope Json.asOptionLists? d.options <;>
    rw [hschema, hrows, hoptions] at hops <;> cases hops
  exact ⟨_, _, _, rfl, rfl⟩

/-- The documents at the start ask for no schema but one that is read. -/
theorem admitted_of_operations (hops : d.operations = .ok ops) :
    ∀ op ∈ ops, op.Admitted Schema.IsRead := by
  obtain ⟨schema, options, rows, hread, rfl⟩ := exists_of_operations hops
  simp only [List.mem_append, Option.mem_toList, Option.map_eq_some_iff]
  rintro op ((⟨schema, rfl, rfl⟩ | ⟨options, rfl, rfl⟩) | ⟨rows, rfl, rfl⟩)
  · exact isRead_of_readSchema hread
  · trivial
  · trivial

end Documents

/-- A schema comes as a document, never as it is. -/
theorem Command.ofFields?_ne_performLoad (name : String) (fields : Json) (schema : Schema) :
    ofFields? name fields ≠ some (.perform (.loadSchema schema)) := by
  unfold ofFields?
  split <;> simp [bare, withIndex, withFieldId, bind, Option.bind_eq_some_iff]

theorem Command.ofLine?_ne_performLoad (line : String) (schema : Schema) :
    ofLine? line ≠ some (.perform (.loadSchema schema)) := by
  unfold ofLine?
  intro hline
  obtain ⟨j, -, hj⟩ := Option.bind_eq_some_iff.1 hline
  unfold ofJson? at hj
  split at hj
  · split at hj
    · exact ofFields?_ne_performLoad _ _ _ hj
    · cases hj
  · exact ofFields?_ne_performLoad _ _ _ hj
  · cases hj

/-! ## Answers -/

namespace Store

variable {s : Store}

theorem Reachable.abandonAll
    (hs : Reachable Schema.IsRead s) (requests : List Request) :
    Reachable Schema.IsRead (s.abandonAll requests) := by
  induction requests generalizing s with
  | nil => exact hs
  | cons r rest ih =>
      have hnext : Reachable Schema.IsRead (s.step (.abandonLookup r.ticket)).store :=
        hs.step trivial
      exact ih hnext

/-- A command that answers a line loads a schema from a document only, so it keeps
a store reachable. -/
theorem Reachable.answer
    (hs : Reachable Schema.IsRead s) {c : Command}
    (hc : ∀ schema, c ≠ .perform (.loadSchema schema)) :
    Reachable Schema.IsRead (s.answer c).store := by
  cases c with
  | loadSchema document =>
      simp only [Store.answer]
      split
      · rename_i schema hschema
        have hread : (Operation.loadSchema schema).Admitted Schema.IsRead := ⟨document, hschema⟩
        exact hs.step hread
      · exact hs
  | updateCell row fieldId raw =>
      have hnext : Reachable Schema.IsRead (s.step (.updateCell row fieldId raw)).store :=
        hs.step trivial
      simp only [Store.answer, answerEdit]
      split
      · exact hnext.abandonAll _
      · exact hnext
      · exact hnext
  | perform op =>
      refine hs.step ?_
      cases op with
      | loadSchema schema => exact absurd rfl (hc schema)
      | _ => trivial
  | cellView row fieldId =>
      simp only [Store.answer]
      split <;> exact hs
  | snapshot => exact hs
  | pageView => exact hs
  | exportRows => exact hs
  | checkExpression source => exact hs

theorem Reachable.answerLine (hs : Reachable Schema.IsRead s) (line : String) :
    Reachable Schema.IsRead (s.answerLine line).store := by
  unfold Store.answerLine
  cases hline : Command.ofLine? line with
  | none => exact hs
  | some c =>
      refine hs.answer fun schema hc => Command.ofLine?_ne_performLoad line schema ?_
      rw [hline, hc]

/-- Nothing ends an answer as long as the pages fit before it and after it. -/
theorem PagesFit.answerFault?_eq_none
    (hbefore : s.PagesFit) {c : Command} (hafter : (s.answer c).store.PagesFit) :
    s.answerFault? c = none := by
  cases c with
  | loadSchema document =>
      cases hschema : Schema.ofJson document with
      | error e => simp only [answerFault?, hschema, Except.toOption, Option.bind_none]
      | ok schema =>
          rw [Store.answer, hschema] at hafter
          simp only [answerFault?, hschema, Except.toOption, Option.bind_some]
          exact hafter.pageFault?_eq_none
  | updateCell row fieldId raw =>
      simp only [answerFault?]
      split
      · rfl
      · exact hbefore.pageFault?_eq_none
  | perform op =>
      simp only [answerFault?]
      rw [hbefore.fault?_eq_none hafter, Option.none_or]
      exact hafter.pageFault?_eq_none
  | snapshot => exact hbefore.pageFault?_eq_none
  | pageView => exact hbefore.pageFault?_eq_none
  | cellView _ _ => rfl
  | exportRows => rfl
  | checkExpression _ => rfl

/-- The stores of a session, which starts for a role with some documents and
answers lines. -/
inductive InSession : Store → Prop where
  | start (role : Option String) {d : Documents} {ops : List Operation}
      (hops : d.operations = .ok ops) : InSession ((forRole role).run ops)
  | line {s : Store} (hs : InSession s) (line : String) : InSession (s.answerLine line).store

theorem InSession.reachable (hs : s.InSession) : Reachable Schema.IsRead s := by
  induction hs with
  | start role hops =>
      have hempty : Schema.IsRead {} := ⟨.obj [], rfl⟩
      have hblank : Reachable Schema.IsRead (ofSchema .builtin {}) := .start .builtin hempty
      have hrole : Reachable Schema.IsRead ((ofSchema .builtin {}).step (.setRole role)).store :=
        hblank.step trivial
      exact hrole.run (Documents.admitted_of_operations hops)
  | line _ line ih => exact ih.answerLine line

end Store
end RecordGrid
