import RecordGrid.Expr.Eval
import RecordGrid.Proofs.Expr.Missing
import RecordGrid.Proofs.Expr.Size

/-!
# Evaluation within levels

Evaluation goes down one level with every node, and a function that is called with
a number of arguments it does not take is a fault of its own.  An expression that
has been read goes down no further than its limits on primaries and on nesting let
it, and comes by no such call.
-/

namespace RecordGrid

/-- What a function gives for a number of arguments that it does not take. -/
theorem Function.apply_of_not_accepts {f : Function} {args : List Outcome}
    (h : f.accepts args.length = false) : f.apply args = .error .notANumber := by
  unfold Function.apply
  split
  case h_11 => rfl
  -- the other rows are those of numbers that are taken
  all_goals simp [accepts, minArgs, maxArgs] at h

namespace Expr

/-- Evaluation that gives up where it would go down more levels than are left, or
where a function is called with a number of arguments that it does not take. -/
def evalWithin (row : Row) : (levels : Nat) → Expr → Option Outcome
  | 0, _ => none
  | _ + 1, .literal value => some (eval row (.literal value))
  | _ + 1, .field id => some (eval row (.field id))
  | levels + 1, .binary op left right => do
      let l ← evalWithin row levels left
      let r ← evalWithin row levels right
      some (l.bind fun l => r.bind (op.apply l))
  | levels + 1, .unary op operand => do
      let v ← evalWithin row levels operand
      some (v.bind op.apply)
  | levels + 1, .logical op left right => do
      match ← evalWithin row levels left with
      | .error fault => some (.error fault)
      | .ok l => if op.decidedBy l then some (.ok l) else evalWithin row levels right
  | levels + 1, .conditional condition onTrue onFalse => do
      match ← evalWithin row levels condition with
      | .error fault => some (.error fault)
      | .ok c =>
          if c.isTruthy then evalWithin row levels onTrue else evalWithin row levels onFalse
  | levels + 1, .call f args =>
      if f.accepts args.length then (args.mapM (evalWithin row levels)).map f.apply else none

variable {row : Row} {e : Expr} {levels : Nat}

theorem mapM_evalWithin {args : List Expr}
    (hargs : ∀ arg ∈ args, evalWithin row levels arg = some (arg.eval row)) :
    args.mapM (evalWithin row levels) = some (evalArgs row args) := by
  induction args with
  | nil => rfl
  | cons arg rest ih =>
      obtain ⟨harg, hrest⟩ := List.forall_mem_cons.1 hargs
      rw [List.mapM_cons, harg, ih hrest]
      rfl

/-- As many levels as the expression is high are enough. -/
theorem evalWithin_eq (hheight : e.height ≤ levels) (hcalls : e.CallsAccepted) :
    evalWithin row levels e = some (e.eval row) := by
  induction levels generalizing e with
  | zero =>
      rw [height_eq] at hheight
      exact absurd hheight (Nat.not_succ_le_zero _)
  | succ levels ih =>
      have hbelow : ∀ child ∈ e.children,
          evalWithin row levels child = some (child.eval row) := by
        intro child hchild
        have hlower := height_lt_of_mem_children hchild
        exact ih (by omega) (hcalls.of_mem_children hchild)
      cases e with
      | literal value => rfl
      | field id => rfl
      | binary op left right =>
          have hleft := hbelow left (by simp [children])
          have hright := hbelow right (by simp [children])
          rw [evalWithin, hleft, hright, eval_binary]
          rfl
      | unary op operand =>
          have hoperand := hbelow operand (by simp [children])
          rw [evalWithin, hoperand, eval]
          rfl
      | logical op left right =>
          have hleft := hbelow left (by simp [children])
          have hright := hbelow right (by simp [children])
          rw [evalWithin, hleft, eval]
          cases left.eval row with
          | error fault => rfl
          | ok l =>
              simp only [bind, Option.bind, Except.bind, hright]
              split <;> rfl
      | conditional condition onTrue onFalse =>
          have hcondition := hbelow condition (by simp [children])
          have htrue := hbelow onTrue (by simp [children])
          have hfalse := hbelow onFalse (by simp [children])
          rw [evalWithin, hcondition, eval]
          cases condition.eval row with
          | error fault => rfl
          | ok c =>
              simp only [bind, Option.bind, Except.bind, htrue, hfalse]
              split <;> rfl
      | call f args =>
          have hlegal : f.accepts args.length = true := hcalls f args (by simp)
          have hargs : args.mapM (evalWithin row levels) = some (evalArgs row args) :=
            mapM_evalWithin hbelow
          rw [evalWithin, if_pos hlegal, hargs, eval]
          rfl

/-- What has been read is derived from so few primaries in so few levels. -/
theorem fits_of_parse {text : String} (hparse : parse text = .ok e) :
    e.Fits maxDepth maxOperands := by
  obtain ⟨operands, hread⟩ := ofTokens_eq_ok_iff.1 hparse
  obtain ⟨d, -, hoperands, rfl, hnesting⟩ := (explains_reader maxDepth).1 hread
  simp only at hoperands
  obtain ⟨hjoins, hleaves, hheight, hcalls⟩ := d.fits
  exact ⟨hjoins, by omega, by omega, hcalls⟩

/-- An expression that has been read has at most 256 leaves and 255 joins, no way
down it has more than 384 nodes, and its functions take the arguments they are called
with.  So 384 levels are enough to evaluate it on any record, and no function faults
for the number of its arguments. -/
theorem read_expression_is_bounded {text : String} (hparse : parse text = .ok e) :
    e.leafCount ≤ 256 ∧ e.joinCount ≤ 255 ∧ (∀ path, Path e path → path.length ≤ 384) ∧
      (∀ f args, .call f args ∈ e.nodes → f.accepts args.length = true) ∧
      ∀ row, evalWithin row 384 e = some (e.eval row) := by
  obtain ⟨hjoins, hleaves, hheight, hcalls⟩ := fits_of_parse hparse
  simp only [maxDepth, maxOperands] at hleaves hheight
  have hheight : e.height ≤ 384 := by omega
  exact ⟨hleaves, by omega, fun path hpath => Nat.le_trans hpath.length_le_height hheight,
    hcalls, fun row => evalWithin_eq hheight hcalls⟩

def reorderText : String := "-stock ? MIN(need, 9 * lot) : open && !(paid || late)"

def reorderFormula : Expr :=
  .conditional (.unary .negate (.field "stock"))
    (.call .min [.field "need", .binary .multiply (.literal (.number 9)) (.field "lot")])
    (.logical .and (.field "open") (.unary .not (.logical .or (.field "paid") (.field "late"))))

theorem tokens_reorderText :
    Token.tokens reorderText.toList =
      [.symbol .minus, .identifier "stock", .symbol .question, .identifier "MIN",
        .symbol .leftParen, .identifier "need", .symbol .comma, .number 9, .symbol .asterisk,
        .identifier "lot", .symbol .rightParen, .symbol .colon, .identifier "open", .symbol .and,
        .symbol .bang, .symbol .leftParen, .identifier "paid", .symbol .or, .identifier "late",
        .symbol .rightParen] := by
  decide +kernel

/-- A formula with nodes of every kind, on a record without any of its fields. -/
theorem read_expression_is_bounded_of_reorder :
    parse reorderText = .ok reorderFormula ∧
      reorderFormula.leafCount ≤ 256 ∧ reorderFormula.joinCount ≤ 255 ∧
      (∀ path, Path reorderFormula path → path.length ≤ 384) ∧
      Function.min.accepts 2 = true ∧
      evalWithin [] 384 reorderFormula = some (.error (.unknownField "stock")) := by
  have hparse : parse reorderText = .ok reorderFormula := by
    rw [parse, tokens_reorderText]
    rfl
  obtain ⟨hleaves, hjoins, hpaths, hcalls, heval⟩ := read_expression_is_bounded hparse
  have hmin := hcalls .min
    [.field "need", .binary .multiply (.literal (.number 9)) (.field "lot")]
    (by simp [reorderFormula])
  exact ⟨hparse, hleaves, hjoins, hpaths, hmin, heval []⟩

end Expr
end RecordGrid
