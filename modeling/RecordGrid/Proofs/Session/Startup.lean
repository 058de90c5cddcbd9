import RecordGrid.Proofs.Session.Reachable
import RecordGrid.Proofs.Store.Undo
import RecordGrid.Session.Startup

/-!
# A start loads all of its documents or none

A load could stop between two documents, since nothing takes back what it has
done to the store.  It never does: it reads everything before it changes
anything (`loadDocuments_eq`), and once all is read there is nothing left to
fail.
-/

namespace RecordGrid

namespace Loading

/-! ## What is read -/

/-- What a path names, where there is one, is there and reads as a value. -/
inductive Given {α : Type} (contents : String → Option String) (Reads : String → α → Prop) :
    Option String → Option α → Prop where
  | unnamed : Given contents Reads none none
  | named {path text : String} {value : α} (hfile : contents path = some text)
      (hreads : Reads text value) : Given contents Reads (some path) (some value)

/-- Every document that a configuration names is there, and these are the schema,
the records and the options in them. -/
structure AllGiven (contents : String → Option String) (c : Config) (schema : Option Schema)
    (rows : Option (List Row)) (options : Option (List (String × List Choice))) : Prop where
  schema : Given contents (fun text schema => Schema.ofText text = .ok schema)
    c.schemaPath schema
  rows : Given contents
    (fun text rows => (Json.parsePart? .whole text).bind (Json.asList? Json.asRow?) = some rows)
    c.dataPath rows
  options : Given contents
    (fun text options =>
      (Json.parsePart? Documents.optionsScope text).bind Json.asOptionLists? = some options)
    c.lookupOptionsPath options

section
variable {α : Type} {contents : String → Option String} {c : Config} {path : Option String}
  {Reads : String → α → Prop} {read : Option String → Except DocumentError (Option α)}
  {value : Option α}

theorem readNamed_eq_ok_iff
    (hread : ∀ text value, read (some text) = .ok value ↔ ∃ a, value = some a ∧ Reads text a) :
    readNamed contents read path = .ok value ↔ Given contents Reads path value := by
  constructor
  · intro hok
    unfold readNamed at hok
    split at hok
    · cases hok
      exact .unnamed
    · split at hok
      · cases hok
      · rename_i path text hfile
        cases hvalue : read (some text) with
        | error e => rw [hvalue] at hok; cases hok
        | ok found =>
            rw [hvalue] at hok
            cases hok
            obtain ⟨a, rfl, ha⟩ := (hread text value).1 hvalue
            exact .named hfile ha
  · intro hgiven
    cases hgiven with
    | unnamed => rfl
    | @named path text a hfile hreads =>
        have hvalue : read (some text) = .ok (some a) := (hread text _).2 ⟨a, rfl, hreads⟩
        simp only [readNamed, hfile, hvalue]
        rfl

theorem readSchema_eq_ok_iff (text : String) (value : Option Schema) :
    Documents.readSchema (some text) = .ok value ↔
      ∃ schema, value = some schema ∧ Schema.ofText text = .ok schema := by
  cases hschema : Schema.ofText text with
  | error e => simp [Documents.readSchema, hschema]
  | ok schema => simp [Documents.readSchema, hschema, eq_comm]

theorem readText_eq_ok_iff (scope : Json.Scope) (ofJson? : Json → Option α) (text : String)
    (value : Option α) :
    Documents.readText scope ofJson? (some text) = .ok value ↔
      ∃ a, value = some a ∧ (Json.parsePart? scope text).bind ofJson? = some a := by
  cases hvalue : (Json.parsePart? scope text).bind ofJson? with
  | none => simp [Documents.readText, hvalue]
  | some a => simp [Documents.readText, hvalue, eq_comm]

end

/-- Reading alone, without a host. -/
def reading (contents : String → Option String) (c : Config) :
    Except LoadError
      (Option Schema × Option (List Row) × Option (List (String × List Choice))) := do
  let schema ← schemaOf contents c
  let rows ← rowsOf contents c
  let options ← optionsOf contents c
  return (schema, rows, options)

theorem reading_eq_ok_iff {contents : String → Option String} {c : Config}
    {schema : Option Schema} {rows : Option (List Row)}
    {options : Option (List (String × List Choice))} :
    reading contents c = .ok (schema, rows, options) ↔
      AllGiven contents c schema rows options := by
  have hschema : schemaOf contents c = .ok schema ↔ _ := readNamed_eq_ok_iff readSchema_eq_ok_iff
  have hrows : rowsOf contents c = .ok rows ↔ _ := readNamed_eq_ok_iff (readText_eq_ok_iff _ _)
  have hoptions : optionsOf contents c = .ok options ↔ _ :=
    readNamed_eq_ok_iff (readText_eq_ok_iff _ _)
  constructor
  · intro hok
    unfold reading at hok
    cases hs : schemaOf contents c <;> cases hr : rowsOf contents c <;>
      cases ho : optionsOf contents c <;> rw [hs, hr, ho] at hok <;> cases hok
    exact ⟨hschema.1 hs, hrows.1 hr, hoptions.1 ho⟩
  · intro hgiven
    unfold reading
    rw [hschema.2 hgiven.schema, hrows.2 hgiven.rows, hoptions.2 hgiven.options]
    rfl

end Loading

/-! ## What is done -/

theorem Store.published_append (s : Store) (first second : List Store.Operation) :
    s.published (first ++ second) = s.published first ++ (s.run first).published second := by
  induction first generalizing s with
  | nil => rfl
  | cons op rest ih =>
      rw [List.cons_append, published, ih, published, List.append_assoc]
      rfl

namespace Host

def performAll (ops : List Store.Operation) (h : Host) : Host :=
  { h with store := h.store.run ops, published := h.published ++ h.store.published ops }

theorem performAll_nil (h : Host) : h.performAll [] = h := by
  simp only [performAll, Store.run, Store.published, List.foldl_nil, List.append_nil]

theorem performAll_singleton (op : Store.Operation) (h : Host) :
    h.performAll [op] = h.perform op := by
  simp only [performAll, perform, Store.run, Store.published, List.foldl_cons, List.foldl_nil,
    List.append_nil]

theorem performAll_append (first second : List Store.Operation) (h : Host) :
    h.performAll (first ++ second) = (h.performAll first).performAll second := by
  simp only [performAll, Store.run_append, Store.published_append, List.append_assoc]

end Host

namespace Loading

variable {α β : Type}

/-- What comes after an error is not done, and what came before it stays. -/
theorem run_bind (x : Loading α) (next : α → Loading β) (h : Host) :
    (x >>= next).run h =
      match x.run h with
      | (.error e, after) => (.error e, after)
      | (.ok a, after) => (next a).run after := by
  have hstep : (x >>= next).run h =
      match x.run h with
      | (result, after) => (ExceptT.bindCont next result).run after := rfl
  rw [hstep]
  rcases x.run h with ⟨e | a, after⟩ <;> rfl

theorem run_ofExcept (read : Except LoadError α) (h : Host) :
    (ofExcept read : Loading α).run h = (read, h) := by
  cases read <;> rfl

theorem run_lock (h : Host) :
    lock.run h = (if h.poisoned then .error .poisoned else .ok (), h) := by
  have hlock : lock.run h =
      ((if h.poisoned then throw .poisoned else pure () : Loading Unit).run h) := rfl
  rw [hlock]
  cases h.poisoned <;> rfl

theorem run_supply (operation : α → Store.Operation) (value : Option α) (h : Host) :
    (supply operation value).run h =
      (.ok (), h.performAll (value.map operation).toList) := by
  cases value with
  | none => exact congrArg (Except.ok (), ·) h.performAll_nil.symm
  | some a => exact congrArg (Except.ok (), ·) (h.performAll_singleton _).symm

/-- What documents ask of a store: the schema, then the options, then the records. -/
def asked (schema : Option Schema) (rows : Option (List Row))
    (options : Option (List (String × List Choice))) : List Store.Operation :=
  (schema.map .loadSchema).toList ++ (options.map .supplyOptions).toList ++
    (rows.map .supplyRows).toList

end Loading

/-- A load reads everything first, and then does what it has read. -/
theorem Host.loadDocuments_eq (contents : String → Option String) (c : Config) (h : Host) :
    h.loadDocuments contents c =
      match Loading.reading contents c with
      | .error e => (.error e, h)
      | .ok (schema, rows, options) =>
          if h.poisoned then (.error .poisoned, h)
          else (.ok (), h.performAll (Loading.asked schema rows options)) := by
  unfold loadDocuments Loading.documents Loading.reading
  rw [Loading.run_bind, Loading.run_ofExcept]
  cases Loading.schemaOf contents c with
  | error e => rfl
  | ok schema =>
      dsimp only
      rw [Loading.run_bind, Loading.run_ofExcept]
      cases Loading.rowsOf contents c with
      | error e => rfl
      | ok rows =>
          dsimp only
          rw [Loading.run_bind, Loading.run_ofExcept]
          cases Loading.optionsOf contents c with
          | error e => rfl
          | ok options =>
              dsimp only
              rw [Loading.run_bind, Loading.run_lock]
              cases h.poisoned with
              | true => rfl
              | false =>
                  simp only [Bool.false_eq_true, if_false, Loading.run_bind, Loading.run_supply,
                    ← performAll_append]
                  rfl

/-- Where all three documents are named. -/
example (s : Store) (schema : Schema) (rows : List Row) (options : List (String × List Choice)) :
    s.run (Loading.asked (some schema) (some rows) (some options)) =
      (Store.supplyRows rows { (s.loadSchema schema).store with supplied := options }).store :=
  rfl

/-! ## What follows for a session -/

namespace Loading

variable {α : Type} {contents : String → Option String} {c : Config} {path : Option String}
  {Reads : String → α → Prop} {read : Option String → Except DocumentError (Option α)}
  {value : Option α}

theorem Given.read_eq_ok (hgiven : Given contents Reads path value) (hnone : read none = .ok none)
    (hread : ∀ text value, read (some text) = .ok value ↔ ∃ a, value = some a ∧ Reads text a) :
    read (path.bind contents) = .ok value := by
  cases hgiven with
  | unnamed => exact hnone
  | named hfile hreads =>
      rw [Option.bind_some, hfile]
      exact (hread _ _).2 ⟨_, rfl, hreads⟩

/-- A load asks for what the texts in the files ask for. -/
theorem AllGiven.operations {schema : Option Schema} {rows : Option (List Row)}
    {options : Option (List (String × List Choice))}
    (hgiven : AllGiven contents c schema rows options) :
    (Documents.mk (c.schemaPath.bind contents) (c.dataPath.bind contents)
      (c.lookupOptionsPath.bind contents)).operations = .ok (asked schema rows options) := by
  unfold Documents.operations
  rw [hgiven.schema.read_eq_ok rfl readSchema_eq_ok_iff,
    hgiven.rows.read_eq_ok rfl (readText_eq_ok_iff _ _),
    hgiven.options.read_eq_ok rfl (readText_eq_ok_iff _ _)]
  rfl

theorem readNamed_eq_error {e : LoadError} (herror : readNamed contents read path = .error e) :
    ∃ named, path = some named ∧
      ((contents named = none ∧ e = .unreadable) ∨
        ∃ text fault, contents named = some text ∧ read (some text) = .error fault ∧
          e = .ofDocument named fault) := by
  unfold readNamed at herror
  split at herror
  · cases herror
  · rename_i named
    split at herror
    · rename_i hfile
      cases herror
      exact ⟨named, rfl, .inl ⟨hfile, rfl⟩⟩
    · rename_i text hfile
      cases hvalue : read (some text) with
      | ok value => rw [hvalue] at herror; cases herror
      | error fault =>
          rw [hvalue] at herror
          cases herror
          exact ⟨named, rfl, .inr ⟨text, fault, hfile, hvalue, rfl⟩⟩

theorem malformed_of_readText {scope : Json.Scope} {ofJson? : Json → Option α} {named : String}
    (herror : readNamed contents (Documents.readText scope ofJson?) path =
      .error (.malformed named)) :
    path = some named ∧
      ∃ text, contents named = some text ∧ (Json.parsePart? scope text).bind ofJson? = none := by
  obtain ⟨found, rfl, ⟨-, he⟩ | ⟨text, fault, hfile, hfault, he⟩⟩ := readNamed_eq_error herror
  · cases he
  · cases hvalue : (Json.parsePart? scope text).bind ofJson? with
    | some a => simp [Documents.readText, hvalue] at hfault
    | none =>
        simp only [Documents.readText, hvalue, Except.error.injEq] at hfault
        subst hfault
        cases he
        exact ⟨rfl, text, hfile, hvalue⟩

theorem schemaOf_ne_malformed (named : String) :
    schemaOf contents c ≠ .error (.malformed named) := by
  intro herror
  obtain ⟨found, -, ⟨-, he⟩ | ⟨text, fault, -, hfault, he⟩⟩ := readNamed_eq_error herror
  · cases he
  · cases hschema : Schema.ofText text with
    | ok schema => simp [Documents.readSchema, hschema] at hfault
    | error e =>
        simp only [Documents.readSchema, hschema, Except.error.injEq] at hfault
        subst hfault
        cases he

end Loading

namespace Host

variable {contents : String → Option String} {c : Config} {h after : Host}

/-- An error that names a file names the records or the options, and the file is
there with something else in it. -/
theorem malformed_of_loadDocuments {named : String}
    (hload : h.loadDocuments contents c = (.error (.malformed named), after)) :
    ∃ text, contents named = some text ∧
      (c.dataPath = some named ∧
          (Json.parsePart? .whole text).bind (Json.asList? Json.asRow?) = none ∨
        c.lookupOptionsPath = some named ∧
          (Json.parsePart? Documents.optionsScope text).bind Json.asOptionLists? = none) := by
  have hread : Loading.reading contents c = .error (.malformed named) := by
    rw [loadDocuments_eq] at hload
    cases hread : Loading.reading contents c with
    | error e => rw [hread] at hload; cases hload; rfl
    | ok found =>
        rw [hread] at hload
        dsimp only at hload
        split at hload <;> cases hload
  unfold Loading.reading at hread
  cases hschema : Loading.schemaOf contents c with
  | error e =>
      rw [hschema] at hread
      cases hread
      exact absurd hschema (Loading.schemaOf_ne_malformed named)
  | ok schema =>
      rw [hschema] at hread
      cases hrows : Loading.rowsOf contents c with
      | error e =>
          rw [hrows] at hread
          cases hread
          obtain ⟨hpath, text, hfile, hnone⟩ := Loading.malformed_of_readText hrows
          exact ⟨text, hfile, .inl ⟨hpath, hnone⟩⟩
      | ok rows =>
          rw [hrows] at hread
          cases hoptions : Loading.optionsOf contents c with
          | ok options => rw [hoptions] at hread; cases hread
          | error e =>
              rw [hoptions] at hread
              cases hread
              obtain ⟨hpath, text, hfile, hnone⟩ := Loading.malformed_of_readText hoptions
              exact ⟨text, hfile, .inr ⟨hpath, hnone⟩⟩

/-- A session can start from every store that a load leaves. -/
theorem inSession_of_loadDocuments
    (hload : ({ store := .forRole c.userRole } : Host).loadDocuments contents c =
      (.ok (), after)) : after.store.InSession := by
  rw [loadDocuments_eq] at hload
  cases hread : Loading.reading contents c with
  | error e => rw [hread] at hload; cases hload
  | ok found =>
      obtain ⟨schema, rows, options⟩ := found
      rw [hread] at hload
      cases hload
      exact .start c.userRole (Loading.reading_eq_ok_iff.1 hread).operations

end Host
end RecordGrid
