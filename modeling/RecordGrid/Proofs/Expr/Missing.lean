import Mathlib.Data.List.Forall2
import RecordGrid.Proofs.Expr.Reads

/-!
# Missing fields

An expression faults for want of a field only where it reads the field and the
record does not hold it.  Any other outcome was reached without what is missing,
so it is reached in the same way on a record that holds more.
-/

namespace RecordGrid

/-- Another record holds all that a record holds, and possibly more. -/
def Row.Within (row other : Row) : Prop :=
  ∀ id value, Keyed.get? row id = some value → Keyed.get? other id = some value

/-- The first outcome is the fault of a missing field, or it is the second one as
well and no such fault. -/
inductive Outlasts {α : Type} (missing : String → Prop) : Except Fault α → Except Fault α → Prop where
  | misses {id : String} (unheld : missing id) (after : Except Fault α) :
      Outlasts missing (.error (.unknownField id)) after
  | stays {outcome : Except Fault α} (found : ∀ id, outcome ≠ .error (.unknownField id)) :
      Outlasts missing outcome outcome

namespace Outlasts

variable {α β : Type} {missing : String → Prop}

theorem ok (value : α) : Outlasts missing (.ok value) (.ok value) :=
  .stays fun _ hfault => nomatch hfault

theorem notANumber : Outlasts (α := α) missing (.error .notANumber) (.error .notANumber) :=
  .stays fun _ hfault => nomatch hfault

theorem bind
    {before after : Except Fault α} {next next' : α → Except Fault β}
    (hfirst : Outlasts missing before after)
    (hnext : ∀ value, Outlasts missing (next value) (next' value)) :
    Outlasts missing (before.bind next) (after.bind next') := by
  cases hfirst with
  | misses hid => exact .misses hid _
  | stays hfound =>
      cases before with
      | ok value => exact hnext value
      | error fault =>
          refine .stays fun id hfault => hfound id ?_
          cases hfault
          rfl

theorem map
    {before after : Except Fault α} (houtcome : Outlasts missing before after) (f : α → β) :
    Outlasts missing (before.map f) (after.map f) := by
  have hbind (o : Except Fault α) : o.map f = o.bind fun value => .ok (f value) := by
    cases o <;> rfl
  rw [hbind, hbind]
  exact houtcome.bind fun value => ok (f value)

end Outlasts

variable {missing : String → Prop}

/-! ## What is computed from outcomes -/

theorem Outcome.number_eq (o : Outcome) :
    Outcome.number o = o.bind fun value => (value.asNumber?).elim (.error .notANumber) .ok := by
  cases o with
  | error fault => rfl
  | ok value =>
      simp only [Outcome.number, Except.bind]
      cases value.asNumber? <;> rfl

theorem Outlasts.number {before after : Outcome} (houtcome : Outlasts missing before after) :
    Outlasts missing (Outcome.number before) (Outcome.number after) := by
  rw [Outcome.number_eq, Outcome.number_eq]
  refine houtcome.bind fun value => ?_
  cases value.asNumber? with
  | none => exact .notANumber
  | some x => exact .ok x

/-- Operands that are there are not missing. -/
theorem outlasts_binary (op : BinaryOp) (l r : Scalar) :
    Outlasts missing (op.apply l r) (op.apply l r) := by
  have harithmetic {compute : Float → Float → Except Fault Float}
      (hcompute : ∀ x y, Outlasts missing (compute x y) (compute x y)) :
      Outlasts missing (Scalar.arithmetic compute l r) (Scalar.arithmetic compute l r) := by
    unfold Scalar.arithmetic
    split
    · exact (hcompute _ _).map _
    · exact .notANumber
  have hdividing (divide : Float → Float → Float) (x y : Float) :
      Outlasts missing (Scalar.dividing divide x y) (Scalar.dividing divide x y) := by
    unfold Scalar.dividing
    split
    · exact .ok _
    · exact .stays fun _ hfault => nomatch hfault
  cases op with
  | subtract => exact harithmetic fun x y => .ok _
  | multiply => exact harithmetic fun x y => .ok _
  | divide => exact harithmetic (hdividing _)
  | modulo => exact harithmetic (hdividing _)
  | _ => exact .ok _

theorem outlasts_unary (op : UnaryOp) (v : Scalar) :
    Outlasts missing (op.apply v) (op.apply v) := by
  cases op with
  | not => exact .ok _
  | _ => exact ((Outlasts.ok v).number).map _

namespace Function

theorem foldNumbers_eq (f : Float → Float → Float) (first : Outcome) (rest : List Outcome) :
    foldNumbers f first rest =
      (Outcome.number first).bind fun x =>
        (rest.foldlM (fun acc o => (Outcome.number o).map (f acc)) x).map .number := by
  unfold foldNumbers
  cases Outcome.number first <;> rfl

theorem outlasts_foldNumbers
    (f : Float → Float → Float) {first first' : Outcome} {rest rest' : List Outcome}
    (hfirst : Outlasts missing first first') (hrest : List.Forall₂ (Outlasts missing) rest rest') :
    Outlasts missing (foldNumbers f first rest) (foldNumbers f first' rest') := by
  rw [foldNumbers_eq, foldNumbers_eq]
  refine hfirst.number.bind fun x => Outlasts.map ?_ _
  induction hrest generalizing x with
  | nil => exact .ok x
  | cons hnext _ ih =>
      rw [List.foldlM_cons, List.foldlM_cons]
      exact (hnext.number.map (f x)).bind ih

/-- A function that misses no field of its arguments gives the same on arguments
that miss none. -/
theorem outlasts_apply
    (f : Function) {args args' : List Outcome}
    (hargs : List.Forall₂ (Outlasts missing) args args') :
    Outlasts missing (f.apply args) (f.apply args') := by
  have hchoice {onTrue onTrue' onFalse onFalse' : Outcome}
      (htrue : Outlasts missing onTrue onTrue') (hfalse : Outlasts missing onFalse onFalse')
      (v : Scalar) :
      Outlasts missing (if v.isTruthy then onTrue else onFalse)
        (if v.isTruthy then onTrue' else onFalse') := by
    split
    · exact htrue
    · exact hfalse
  -- by the number of arguments, and then by the functions that take as many
  rcases hargs with _ | ⟨hfirst, hrest⟩
  · cases f <;> exact .notANumber
  have hfold (compute : Float → Float → Float) := outlasts_foldNumbers compute hfirst hrest
  rcases hrest with _ | ⟨hsecond, hrest⟩
  · cases f with
    | min => exact hfold smaller
    | max => exact hfold larger
    | choose => exact .notANumber
    | round => exact hfirst.number.map _
    | abs => exact hfirst.number.map _
    | len => exact hfirst.map _
    | upper => exact hfirst.map _
    | lower => exact hfirst.map _
  rcases hrest with _ | ⟨hthird, hrest⟩
  · cases f with
    | min => exact hfold smaller
    | max => exact hfold larger
    | choose => exact hfirst.bind (hchoice hsecond (.ok Scalar.empty))
    | round => exact hfirst.number.bind fun x => hsecond.number.map _
    | _ => exact .notANumber
  rcases hrest with _ | ⟨hfourth, hrest⟩
  · cases f with
    | min => exact hfold smaller
    | max => exact hfold larger
    | choose => exact hfirst.bind (hchoice hsecond hthird)
    | _ => exact .notANumber
  · cases f with
    | min => exact hfold smaller
    | max => exact hfold larger
    | _ => exact .notANumber

end Function

/-! ## Evaluation -/

namespace Expr

variable {row other : Row}

theorem eval_binary (row : Row) (op : BinaryOp) (left right : Expr) :
    eval row (.binary op left right) =
      (eval row left).bind fun l => (eval row right).bind (op.apply l) := by
  rw [eval]
  cases eval row left with
  | error fault => rfl
  | ok l => cases eval row right <;> rfl

mutual

theorem outlasts_eval
    (e : Expr) (hwithin : Row.Within row other)
    (hmissing : ∀ id ∈ e.mentions, Keyed.get? row id = none → missing id) :
    Outlasts missing (e.eval row) (e.eval other) := by
  match e with
  | .literal value => exact .ok _
  | .field id =>
      rw [eval, eval]
      cases hvalue : Keyed.get? row id with
      | none => exact .misses (hmissing id (List.mem_singleton_self id) hvalue) _
      | some value =>
          rw [hwithin id value hvalue]
          exact .ok _
  | .binary op left right =>
      obtain ⟨hleft, hright⟩ := List.forall_mem_append.1 hmissing
      rw [eval_binary, eval_binary]
      exact (outlasts_eval left hwithin hleft).bind fun l =>
        (outlasts_eval right hwithin hright).bind (outlasts_binary op l)
  | .unary op operand =>
      rw [eval, eval]
      exact (outlasts_eval operand hwithin hmissing).bind (outlasts_unary op)
  | .logical op left right =>
      obtain ⟨hleft, hright⟩ := List.forall_mem_append.1 hmissing
      rw [eval, eval]
      refine (outlasts_eval left hwithin hleft).bind fun l => ?_
      split
      · exact .ok l
      · exact outlasts_eval right hwithin hright
  | .conditional condition onTrue onFalse =>
      obtain ⟨hbefore, honFalse⟩ := List.forall_mem_append.1 hmissing
      obtain ⟨hcondition, honTrue⟩ := List.forall_mem_append.1 hbefore
      rw [eval, eval]
      refine (outlasts_eval condition hwithin hcondition).bind fun c => ?_
      split
      · exact outlasts_eval onTrue hwithin honTrue
      · exact outlasts_eval onFalse hwithin honFalse
  | .call f args =>
      rw [eval, eval]
      exact f.outlasts_apply (outlasts_evalArgs args hwithin hmissing)

theorem outlasts_evalArgs
    (args : List Expr) (hwithin : Row.Within row other)
    (hmissing : ∀ id ∈ mentionsOfArgs args, Keyed.get? row id = none → missing id) :
    List.Forall₂ (Outlasts missing) (evalArgs row args) (evalArgs other args) := by
  match args with
  | [] => exact .nil
  | arg :: rest =>
      obtain ⟨harg, hrest⟩ := List.forall_mem_append.1 hmissing
      exact .cons (outlasts_eval arg hwithin harg) (outlasts_evalArgs rest hwithin hrest)

end

/-- The fields that an expression references decide what it gives: records that
agree on them give the same, a fault for want of a field names one of them that the
record does not hold, and any other outcome stays when the record comes to hold more. -/
theorem eval_decided_by_references (e : Expr) (row other : Row) :
    ((∀ id ∈ e.referencedFields, Keyed.get? row id = Keyed.get? other id) →
      e.eval row = e.eval other) ∧
    (∀ id, e.eval row = .error (.unknownField id) →
      id ∈ e.referencedFields ∧ Keyed.get? row id = none) ∧
    ((∀ id, e.eval row ≠ .error (.unknownField id)) → Row.Within row other →
      e.eval other = e.eval row) := by
  have hmissing : ∀ id ∈ e.mentions, Keyed.get? row id = none →
      id ∈ e.referencedFields ∧ Keyed.get? row id = none :=
    fun id hid hunheld => ⟨mem_referencedFields.2 hid, hunheld⟩
  refine ⟨eval_congr, fun id hfault => ?_, fun hfound hwithin => ?_⟩
  · have hself : Row.Within row row := fun _ _ hvalue => hvalue
    have houtcome := e.outlasts_eval hself hmissing
    rw [hfault] at houtcome
    cases houtcome with
    | misses hunheld => exact hunheld
    | stays hfound => exact absurd rfl (hfound id)
  · have houtcome := e.outlasts_eval hwithin hmissing
    generalize e.eval row = before, e.eval other = after at houtcome hfound
    cases houtcome with
    | misses hunheld => exact absurd rfl (hfound _)
    | stays _ => rfl

/-- The name, or the code where the name is blank. -/
def nameOrCode : Expr := .logical .or (.field "name") (.field "code")

/-- The code may be missing as long as it is not needed. -/
theorem nameOrCode_decided_by_references :
    let named : Row := [("name", .str "Ada")]
    let full : Row := [("code", .str "A1"), ("name", .str "Ada")]
    nameOrCode.referencedFields = ["code", "name"] ∧
      nameOrCode.eval named = .ok (.text "Ada") ∧ nameOrCode.eval full = nameOrCode.eval named ∧
      nameOrCode.eval [] = .error (.unknownField "name") ∧ Keyed.get? ([] : Row) "name" = none := by
  intro named full
  have hvalue : nameOrCode.eval named = .ok (.text "Ada") := rfl
  have hfault : nameOrCode.eval [] = .error (.unknownField "name") := rfl
  have hfound : ∀ id, nameOrCode.eval named ≠ .error (.unknownField id) := by
    rw [hvalue]
    exact fun id h => nomatch h
  have hwithin : Row.Within named full := by
    intro id value hvalue
    simp only [named, full, Keyed.get?_cons, Keyed.get?_nil] at hvalue ⊢
    split at hvalue
    · rename_i hid
      subst hid
      simpa using hvalue
    · cases hvalue
  obtain ⟨-, -, hlonger⟩ := eval_decided_by_references nameOrCode named full
  obtain ⟨-, hmissing, -⟩ := eval_decided_by_references nameOrCode [] full
  exact ⟨rfl, hvalue, hlonger hfound hwithin, hfault, (hmissing "name" hfault).2⟩

end Expr
end RecordGrid
