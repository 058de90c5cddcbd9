import RecordGrid.Expr.Eval

/-!
# What an expression reads

The value of an expression, or its fault, depends on the fields that it mentions
and on nothing else of a record.
-/

namespace RecordGrid
namespace Expr

variable {e : Expr} {row other : Row}

theorem mem_referencedFields {id : String} : id ∈ e.referencedFields ↔ id ∈ e.mentions :=
  Ascending.mem_ofList id e.mentions

mutual

theorem eval_congr_of_mentions (e : Expr)
    (hagree : ∀ id ∈ e.mentions, Keyed.get? row id = Keyed.get? other id) :
    e.eval row = e.eval other := by
  match e with
  | .literal value => rfl
  | .field id => rw [eval, eval, hagree id (List.mem_singleton_self id)]
  | .binary op left right =>
      obtain ⟨hleft, hright⟩ := List.forall_mem_append.1 hagree
      rw [eval, eval, eval_congr_of_mentions left hleft, eval_congr_of_mentions right hright]
  | .unary op operand => rw [eval, eval, eval_congr_of_mentions operand hagree]
  | .logical op left right =>
      obtain ⟨hleft, hright⟩ := List.forall_mem_append.1 hagree
      rw [eval, eval, eval_congr_of_mentions left hleft, eval_congr_of_mentions right hright]
  | .conditional condition onTrue onFalse =>
      obtain ⟨hbefore, honFalse⟩ := List.forall_mem_append.1 hagree
      obtain ⟨hcondition, honTrue⟩ := List.forall_mem_append.1 hbefore
      rw [eval, eval, eval_congr_of_mentions condition hcondition,
        eval_congr_of_mentions onTrue honTrue, eval_congr_of_mentions onFalse honFalse]
  | .call f args => rw [eval, eval, evalArgs_congr_of_mentions args hagree]

theorem evalArgs_congr_of_mentions (args : List Expr)
    (hagree : ∀ id ∈ mentionsOfArgs args, Keyed.get? row id = Keyed.get? other id) :
    evalArgs row args = evalArgs other args := by
  match args with
  | [] => rfl
  | arg :: rest =>
      obtain ⟨harg, hrest⟩ := List.forall_mem_append.1 hagree
      rw [evalArgs, evalArgs, eval_congr_of_mentions arg harg,
        evalArgs_congr_of_mentions rest hrest]

end

/-- Records that agree on the referenced fields give the same value. -/
theorem eval_congr
    (hagree : ∀ id ∈ e.referencedFields, Keyed.get? row id = Keyed.get? other id) :
    e.eval row = e.eval other :=
  eval_congr_of_mentions e fun id hid => hagree id (mem_referencedFields.2 hid)

end Expr
end RecordGrid
