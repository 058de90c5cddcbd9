import RecordGrid.Proofs.View.Formulas

/-!
# Expressions that are kept and refreshed

What is kept of expressions saves work and decides nothing.  However often they
have been refreshed, and for whatever columns, a formula and a condition give what
they give when their text is read on the spot; and nothing is left of any columns
but the last ones.
-/

namespace RecordGrid
namespace Expressions

variable {e : Expressions}

/-- The expressions after they have been refreshed for several lists of columns, one
after the other. -/
def refreshes (e : Expressions) (history : List (List Column)) : Expressions :=
  history.foldl refresh e

theorem refreshes_append_singleton (history : List (List Column)) (columns : List Column) :
    e.refreshes (history ++ [columns]) = (e.refreshes history).refresh columns := by
  rw [refreshes, List.foldl_append]
  rfl

/-! ## What is kept -/

/-- Refreshing forgets what was kept before. -/
theorem Faithful.refresh_eq_forColumns (he : e.Faithful) (columns : List Column) :
    e.refresh columns = forColumns columns := by
  rw [he.refresh_eq, forColumns, faithful_empty.refresh_eq]

theorem Faithful.refresh (he : e.Faithful) (columns : List Column) :
    (e.refresh columns).Faithful := by
  rw [he.refresh_eq_forColumns]
  exact faithful_forColumns columns

theorem Faithful.refreshes (he : e.Faithful) (history : List (List Column)) :
    (e.refreshes history).Faithful := by
  induction history generalizing e with
  | nil => exact he
  | cons columns rest ih => exact ih (he.refresh columns)

theorem Faithful.refreshes_eq (he : e.Faithful) (history : List (List Column)) :
    e.refreshes history = (history.getLast?).elim e forColumns := by
  rcases List.eq_nil_or_concat history with rfl | ⟨before, columns, rfl⟩
  · rfl
  · rw [List.concat_eq_append, refreshes_append_singleton,
      (he.refreshes before).refresh_eq_forColumns, List.getLast?_concat, Option.elim_some]

/-! ## What they give -/

/-- A text is read as it stands, with the blanks around it, where nothing is kept. -/
theorem compile_empty (text : String) : compile {} text = Compiled.ofText text := rfl

theorem Faithful.eval_compile (he : e.Faithful) (text : String) (row : Row) :
    (e.compile text).eval row = (Compiled.ofText text).eval row := by
  rw [Compiled.eval, he.parsed_compile, Compiled.eval, Compiled.ofText]

theorem Faithful.formulaValue_eq (he : e.Faithful) (c : Column) (row : Row) :
    e.formulaValue c row = formulaValue {} c row := by
  unfold formulaValue
  cases c.formula with
  | none => rfl
  | some text =>
      simp only [compile_empty, Compiled.formulaValue, he.eval_compile]

theorem Faithful.isVisible_eq (he : e.Faithful) (c : Column) (row : Row) :
    e.isVisible c row = isVisible {} c row := by
  unfold isVisible
  cases c.visibilitySource? with
  | none => rfl
  | some text => simp only [compile_empty, Compiled.shows, he.eval_compile]

/-- Refreshed for any lists of columns, the expressions give the values and the
visibility that nothing kept would give, and keep what the last columns need. -/
theorem refreshes_give_what_is_read (history : List (List Column)) :
    let kept := refreshes {} history
    (∀ c row, kept.formulaValue c row = formulaValue {} c row ∧
      kept.isVisible c row = isVisible {} c row) ∧
    kept = (history.getLast?).elim {} forColumns := by
  intro kept
  have hkept : kept.Faithful := faithful_empty.refreshes history
  exact ⟨fun c row => ⟨hkept.formulaValue_eq c row, hkept.isVisible_eq c row⟩,
    faithful_empty.refreshes_eq history⟩

end Expressions
end RecordGrid
