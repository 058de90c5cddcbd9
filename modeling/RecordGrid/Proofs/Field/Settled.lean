import RecordGrid.Field.Behavior
import RecordGrid.Proofs.Json.Equality
import RecordGrid.Proofs.Json.Record

/-!
# Stored values settle

What a field makes of an entry is a value that it takes as it is: entered again,
it comes out the same.  Such a value is valid, numbers outside the bounds of
their column aside.
-/

namespace RecordGrid

theorem Asset.sizeBytes_lt_of_ofJson? {j : Json} {a : Asset} (hread : ofJson? j = some a) :
    a.sizeBytes < 0x10000000000000000 := by
  obtain ⟨r, -, hread⟩ := Option.bind_eq_some_iff.1 hread
  obtain ⟨name, -, hread⟩ := Option.bind_eq_some_iff.1 hread
  obtain ⟨sizeBytes, hsize, hread⟩ := Option.bind_eq_some_iff.1 hread
  iterate 2 obtain ⟨_, -, hread⟩ := Option.bind_eq_some_iff.1 hread
  cases hread
  obtain ⟨j, -, hj⟩ := Option.bind_eq_some_iff.1 hsize
  exact Json.lt_of_asNatBelow? hj

/-- A file that was read is read again from what is stored for it. -/
theorem Asset.ofJson?_toJson {a : Asset} (hsize : a.sizeBytes < 0x10000000000000000) :
    ofJson? a.toJson = some a := by
  obtain ⟨name, sizeBytes, mimeType, data⟩ := a
  have hcount : Json.asCount? (.int sizeBytes) = some sizeBytes := if_pos hsize
  cases mimeType <;> cases data <;>
    simp [ofJson?, toJson, Json.record?, Json.required, Json.optional, List.lookup_cons,
      Json.asStr?, hcount]

theorem Asset.toJson_beq_self (a : Asset) : (a.toJson == a.toJson) = true := by
  change a.toJson.beq a.toJson = true
  obtain ⟨name, sizeBytes, mimeType, data⟩ := a
  cases mimeType <;> cases data <;> simp [toJson, Json.beq, Json.beqMembers]

/-- A text cut to the length that the column allows. -/
def Column.limited (c : Column) (text : String) : String :=
  c.maxLength.elim text fun limit => String.ofList (text.toList.take limit)

/-- The value is a number that the bounds of the column leave out. -/
def Column.LeavesOut (c : Column) (v : Json) : Prop :=
  ∃ x, v.asNumber? = some x ∧ ∃ bounds, c.validation = some bounds ∧ bounds.contains x = false

theorem Column.limited_limited (c : Column) (text : String) :
    c.limited (c.limited text) = c.limited text := by
  unfold limited
  cases c.maxLength with
  | none => rfl
  | some limit => simp [List.take_take]

theorem Column.length_limited {c : Column} {limit : Nat} (hlimit : c.maxLength = some limit)
    (text : String) : (c.limited text).length ≤ limit := by
  simp only [limited, hlimit, Option.elim_some, String.length_ofList, List.length_take]
  exact Nat.min_le_left ..

namespace Behavior

variable {ctx : FieldContext} {raw v : Json} {b : Behavior}

/-- The field takes the value as it is, and flags it only as a number that is
out of bounds. -/
structure Settled (b : Behavior) (ctx : FieldContext) (v : Json) : Prop where
  again : b.coerce ctx v = .ok v
  invalid_iff : b.isValid ctx v = false ↔ b = .number ∧ ctx.column.LeavesOut v

/-- Only numbers are ever flagged where everything is taken. -/
theorem Settled.of_isValid (hnumber : b ≠ .number) (hagain : b.coerce ctx v = .ok v)
    (hvalid : b.isValid ctx v = true) : b.Settled ctx v := by
  refine ⟨hagain, ?_⟩
  rw [hvalid]
  exact iff_of_false (by decide) fun h => hnumber h.1

/-! ## Texts, flags and choices -/

theorem stored_text (hcoerce : Behavior.text.coerce ctx raw = .ok v) :
    v = .str (ctx.column.limited raw.displayText) := by
  change coerceText ctx raw = .ok v at hcoerce
  unfold coerceText at hcoerce
  cases raw <;> cases hcoerce <;> rfl

theorem settled_text (text : String) :
    Behavior.text.Settled ctx (.str (ctx.column.limited text)) := by
  refine .of_isValid (by decide) ?_ rfl
  change Except.ok (Json.str (ctx.column.limited (ctx.column.limited text))) = _
  rw [Column.limited_limited]

theorem stored_boolean (hcoerce : Behavior.boolean.coerce ctx raw = .ok v) :
    ∃ flag, v = .bool flag := by
  change coerceBoolean ctx raw = .ok v at hcoerce
  unfold coerceBoolean at hcoerce
  split at hcoerce
  · cases hcoerce
    exact ⟨_, rfl⟩
  · cases hcoerce
    exact ⟨_, rfl⟩
  · cases hcoerce
    exact ⟨_, rfl⟩
  · cases hcoerce
    exact ⟨_, rfl⟩
  · split at hcoerce
    · cases hcoerce
      exact ⟨_, rfl⟩
    · cases hcoerce
  · cases hcoerce

theorem stored_choice
    {source : OptionSource} (hcoerce : (Behavior.choice source).coerce ctx raw = .ok v) :
    v = .str raw.displayText ∧ admitsChoice source ctx raw.displayText = true := by
  change coerceChoice source ctx raw = .ok v at hcoerce
  unfold coerceChoice at hcoerce
  split at hcoerce
  · cases hcoerce
  · cases hcoerce
  · split at hcoerce
    · next hadmitted =>
        cases hcoerce
        exact ⟨rfl, hadmitted⟩
    · cases hcoerce

theorem settled_choice {source : OptionSource} {text : String}
    (hadmitted : admitsChoice source ctx text = true) :
    (Behavior.choice source).Settled ctx (.str text) := by
  have hagain : coerceChoice source ctx (.str text) = .ok (.str text) := if_pos hadmitted
  exact .of_isValid (by simp) hagain hadmitted

/-! ## Numbers -/

theorem isValid_number_iff {x : Float} (hx : v.asNumber? = some x) :
    Behavior.number.isValid ctx v = false ↔ ctx.column.LeavesOut v := by
  have hblank : v.isBlank = false := by
    cases v with
    | int n => rfl
    | float y => rfl
    | _ => cases hx
  have hnumeric : v.numeric? = some x := by
    cases v with
    | int n => exact hx
    | float y => exact hx
    | _ => cases hx
  simp only [isValid, hblank, hnumeric, Bool.false_or, Option.any_some, Column.LeavesOut, hx,
    Option.some.injEq, exists_eq_left']
  cases ctx.column.validation <;> simp

theorem settled_number {x : Float} (hx : v.asNumber? = some x)
    (hagain : coerceNumber ctx v = .ok v) : Behavior.number.Settled ctx v :=
  ⟨hagain, (isValid_number_iff hx).trans (and_iff_right rfl).symm⟩

theorem settled_number_null : Behavior.number.Settled ctx .null := by
  have hvalid : Behavior.number.isValid ctx .null = true := rfl
  refine ⟨rfl, ?_⟩
  rw [hvalid]
  refine iff_of_false (by decide) ?_
  rintro ⟨-, x, hx, -⟩
  cases hx

/-- What is stored for a number: nothing, a whole number, or a double that was
entered or read from a text. -/
theorem stored_number (hcoerce : Behavior.number.coerce ctx raw = .ok v) :
    v = .null ∨ (∃ n, v = .int n) ∨
      ∃ x, v = .float x ∧ (raw = .float x ∨ Number.isFinite x = true) := by
  change coerceNumber ctx raw = .ok v at hcoerce
  unfold coerceNumber at hcoerce
  split at hcoerce
  · cases hcoerce
    exact .inl rfl
  · cases hcoerce
    exact .inr (.inl ⟨_, rfl⟩)
  · cases hcoerce
    exact .inr (.inr ⟨_, rfl, .inl rfl⟩)
  · split at hcoerce
    · cases hcoerce
      exact .inl rfl
    · split at hcoerce
      · cases hcoerce
        unfold Json.ofNumber
        split
        · exact .inr (.inl ⟨_, rfl⟩)
        · split
          · next hfinite => exact .inr (.inr ⟨_, rfl, .inr hfinite⟩)
          · exact .inl rfl
      · cases hcoerce
  · cases hcoerce

/-! ## Files and signatures -/

/-- What becomes of a file that has been read. -/
def storeAsset (ctx : FieldContext) (a : Asset) : Except EditError Json :=
  match ctx.column.maxSizeMb.filter fun maxMb => exceeds maxMb a.sizeBytes with
  | some maxMb => .error (.assetTooLarge ctx.column.fieldId maxMb a.sizeBytes)
  | none =>
      if ctx.column.fileTypes.isEmpty || ctx.column.fileTypes.any a.isAcceptedBy then
        .ok a.toJson
      else .error (.assetTypeRejected ctx.column.fieldId ctx.column.fileTypes)

theorem coerceAsset_of_read {a : Asset} (hread : Asset.ofJson? raw = some a) :
    coerceAsset ctx raw = storeAsset ctx a := by
  unfold coerceAsset
  split
  · cases hread
  · simp only [hread]
    rfl

theorem storeAsset_eq_ok {a : Asset} (hstore : storeAsset ctx a = .ok v) : v = a.toJson := by
  unfold storeAsset at hstore
  split at hstore
  · cases hstore
  · split at hstore
    · cases hstore
      rfl
    · cases hstore

theorem stored_asset (hcoerce : Behavior.asset.coerce ctx raw = .ok v) :
    v = .null ∨ ∃ a : Asset, v = a.toJson ∧ coerceAsset ctx v = .ok v := by
  change coerceAsset ctx raw = .ok v at hcoerce
  cases hread : Asset.ofJson? raw with
  | none =>
      unfold coerceAsset at hcoerce
      split at hcoerce
      · cases hcoerce
        exact .inl rfl
      · simp only [hread] at hcoerce
        cases hcoerce
  | some a =>
      have hagain : Asset.ofJson? a.toJson = some a :=
        Asset.ofJson?_toJson (Asset.sizeBytes_lt_of_ofJson? hread)
      rw [coerceAsset_of_read hread] at hcoerce
      obtain rfl := storeAsset_eq_ok hcoerce
      exact .inr ⟨a, rfl, (coerceAsset_of_read hagain).trans hcoerce⟩

theorem stored_signature (hcoerce : Behavior.signature.coerce ctx raw = .ok v) :
    v = .null ∨ (∃ s, v = .str s) ∧ coerceSignature ctx v = .ok v := by
  change coerceSignature ctx raw = .ok v at hcoerce
  have hcoerced := hcoerce
  unfold coerceSignature at hcoerce
  split at hcoerce
  · cases hcoerce
    exact .inl rfl
  · split at hcoerce
    · cases hcoerce
      exact .inl rfl
    · split at hcoerce
      · cases hcoerce
        exact .inr ⟨⟨_, rfl⟩, hcoerced⟩
      · cases hcoerce
  · cases hcoerce

/-! ## All fields -/

theorem settled_of_coerce (hcoerce : b.coerce ctx raw = .ok v) : b.Settled ctx v := by
  cases b with
  | text =>
      obtain rfl := stored_text hcoerce
      exact settled_text _
  | number =>
      rcases stored_number hcoerce with rfl | ⟨n, rfl⟩ | ⟨x, rfl, -⟩
      · exact settled_number_null
      · exact settled_number rfl rfl
      · exact settled_number rfl rfl
  | boolean =>
      obtain ⟨flag, rfl⟩ := stored_boolean hcoerce
      exact .of_isValid (by decide) rfl rfl
  | choice source =>
      obtain ⟨rfl, hadmitted⟩ := stored_choice hcoerce
      exact settled_choice hadmitted
  | formula => cases hcoerce
  | asset =>
      rcases stored_asset hcoerce with rfl | ⟨a, rfl, hagain⟩
      · exact .of_isValid (by decide) rfl rfl
      · exact .of_isValid (by decide) hagain rfl
  | signature =>
      rcases stored_signature hcoerce with rfl | ⟨-, hagain⟩
      · exact .of_isValid (by decide) rfl rfl
      · exact .of_isValid (by decide) hagain rfl
  | unknown => cases hcoerce

/-- What is stored for a value equals itself where the value does. -/
theorem beq_self_of_coerce (hraw : (raw == raw) = true) (hcoerce : b.coerce ctx raw = .ok v) :
    (v == v) = true := by
  have hstr (s : String) : (Json.str s == Json.str s) = true := beq_self_eq_true s
  cases b with
  | text =>
      obtain rfl := stored_text hcoerce
      exact hstr _
  | number =>
      rcases stored_number hcoerce with rfl | ⟨n, rfl⟩ | ⟨x, rfl, rfl | hfinite⟩
      · rfl
      · exact beq_self_eq_true n
      · exact hraw
      · exact Float.beq_self_of_isFinite hfinite
  | boolean =>
      obtain ⟨flag, rfl⟩ := stored_boolean hcoerce
      exact beq_self_eq_true flag
  | choice source =>
      obtain ⟨rfl, -⟩ := stored_choice hcoerce
      exact hstr _
  | formula => cases hcoerce
  | asset =>
      rcases stored_asset hcoerce with rfl | ⟨a, rfl, -⟩
      · rfl
      · exact a.toJson_beq_self
  | signature =>
      rcases stored_signature hcoerce with rfl | ⟨⟨s, rfl⟩, -⟩
      · rfl
      · exact hstr s
  | unknown => cases hcoerce

end Behavior

end RecordGrid
