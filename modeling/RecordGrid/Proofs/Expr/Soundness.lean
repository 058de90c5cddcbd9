import RecordGrid.Proofs.Expr.Phrases

/-!
# What is read has a derivation

A reader that succeeds has read the tokens of a derivation: nothing is left
out, the primaries are counted, and no more levels are nested than it may
enter.  Every way of putting readers together keeps this, so the readers of all
phrases have it, by induction on the levels that are left.
-/

namespace RecordGrid
namespace Expr

/-- Whatever the reader gives has a derivation as a phrase of this kind. -/
def Explains (depth : Nat) (p : Phrase) (read : Reader Expr) : Prop :=
  ∀ ⦃input rest : Input⦄ ⦃e : Expr⦄, read input = .ok (e, rest) →
    ∃ d : Derivation p, input.tokens = d.tokens ++ rest.tokens ∧
      input.operands = d.primaries + rest.operands ∧ d.expr = e ∧ d.nesting ≤ depth

theorem tokens_of_expect {wanted : Symbol} {input rest : Input}
    (h : expect wanted input = .ok ((), rest)) :
    input.tokens = .symbol wanted :: rest.tokens ∧ input.operands = rest.operands := by
  unfold expect at h
  split at h
  · rename_i s tokens htokens
    split at h
    · rename_i hs
      simp only [Except.ok.injEq, Prod.mk.injEq, true_and] at h
      subst h hs
      exact ⟨htokens, rfl⟩
    · cases h
  · cases h

/-! ## Chains -/

/-- Going on with a chain keeps the derivation of what stands to the left. -/
theorem explains_chainRest {depth : Nat} {rank : Rank} {next : Reader Expr}
    (hnext : Explains depth rank.operand next) {steps : Nat} (left : Derivation (.joined rank))
    (hleft : left.nesting ≤ depth) {input rest : Input} {e : Expr}
    (h : chainRest rank.level next steps left.expr input = .ok (e, rest)) :
    ∃ d : Derivation (.joined rank),
      left.tokens ++ input.tokens = d.tokens ++ rest.tokens ∧
        left.primaries + input.operands = d.primaries + rest.operands ∧
        d.expr = e ∧ d.nesting ≤ depth := by
  induction steps generalizing left input with
  | zero =>
      simp only [chainRest, Except.ok.injEq, Prod.mk.injEq] at h
      obtain ⟨rfl, rfl⟩ := h
      exact ⟨left, rfl, rfl, rfl, hleft⟩
  | succ steps ih =>
      simp only [chainRest] at h
      split at h
      · rename_i s tokens htokens
        split at h
        · rename_i join hjoin
          simp only [bind_eq_ok, Prod.exists] at h
          obtain ⟨e', middle, hright, h⟩ := h
          obtain ⟨right, htail, hoperands, rfl, hdepth⟩ := hnext hright
          have joins := Rank.level_eq_some_iff.1 hjoin
          have hmax : max left.nesting right.nesting ≤ depth := Nat.max_le.2 ⟨hleft, hdepth⟩
          obtain ⟨d, hd, hcount, hexpr, hnesting⟩ :=
            ih (.chain rank left s join joins right) hmax h
          refine ⟨d, ?_, ?_, hexpr, hnesting⟩
          · simp only at htail
            rw [← hd, htokens, htail]
            simp [Derivation.tokens]
          · simp only at hoperands
            simp only [Derivation.primaries] at hcount
            omega
        · simp only [Except.ok.injEq, Prod.mk.injEq] at h
          obtain ⟨rfl, rfl⟩ := h
          exact ⟨left, rfl, rfl, rfl, hleft⟩
      · simp only [Except.ok.injEq, Prod.mk.injEq] at h
        obtain ⟨rfl, rfl⟩ := h
        exact ⟨left, rfl, rfl, rfl, hleft⟩

theorem explains_chain {depth : Nat} {rank : Rank} {next : Reader Expr}
    (hnext : Explains depth rank.operand next) :
    Explains depth (.joined rank) (chain rank.level next) := by
  intro input rest e h
  simp only [chain, bind_eq_ok, Prod.exists] at h
  obtain ⟨e', middle, hfirst, h⟩ := h
  obtain ⟨first, htokens, hoperands, rfl, hdepth⟩ := hnext hfirst
  obtain ⟨d, hd, hcount, hexpr, hnesting⟩ :=
    explains_chainRest hnext (.operand rank first) hdepth h
  refine ⟨d, ?_, ?_, hexpr, hnesting⟩
  · rw [htokens, ← hd]
    rfl
  · rw [hoperands, ← hcount]
    rfl

/-! ## Conditionals -/

theorem explains_conditional {depth : Nat}
    (hcondition : Explains depth (.joined .or) (reader depth (.joined .or)))
    (hexpression : Explains depth .expression (reader depth .expression)) :
    Explains depth .conditional (reader depth .conditional) := by
  intro input rest e h
  simp only [reader_conditional, bind_eq_ok, Prod.exists] at h
  obtain ⟨e', afterCondition, hread, h⟩ := h
  obtain ⟨condition, htokens, hoperands, rfl, hdepth⟩ := hcondition hread
  split at h
  · rename_i tokens hquestion
    simp only [bind_eq_ok, Prod.exists] at h
    obtain ⟨e₁, afterTrue, htrue, ⟨⟩, afterColon, hcolon, e₂, afterFalse, hfalse, h⟩ := h
    simp only [Except.ok.injEq, Prod.mk.injEq] at h
    obtain ⟨rfl, rfl⟩ := h
    obtain ⟨onTrue, htokens₁, hoperands₁, rfl, hdepth₁⟩ := hexpression htrue
    obtain ⟨htokens₂, hoperands₂⟩ := tokens_of_expect hcolon
    obtain ⟨onFalse, htokens₃, hoperands₃, rfl, hdepth₃⟩ := hexpression hfalse
    simp only at htokens₁ hoperands₁
    refine ⟨.conditional condition onTrue onFalse, ?_, ?_, rfl, ?_⟩
    · rw [htokens, hquestion, htokens₁, htokens₂, htokens₃]
      simp [Derivation.tokens]
    · simp only [Derivation.primaries]
      omega
    · exact Nat.max_le.2 ⟨hdepth, Nat.max_le.2 ⟨hdepth₁, hdepth₃⟩⟩
  · simp only [Except.ok.injEq, Prod.mk.injEq] at h
    obtain ⟨rfl, rfl⟩ := h
    exact ⟨.condition condition, htokens, hoperands, rfl, hdepth⟩

/-! ## Calls -/

theorem explains_argumentsRest {depth : Nat} {read : Reader Expr}
    (hread : Explains depth .expression read) {steps : Nat} {input rest : Input}
    {es : List Expr} (h : argumentsRest read steps input = .ok (es, rest)) :
    ∃ further : FurtherArguments es.length,
      input.tokens = further.tokens ++ rest.tokens ∧
        input.operands = further.primaries + rest.operands ∧
        further.exprs = es ∧ further.nesting ≤ depth := by
  induction steps generalizing input es with
  | zero =>
      simp only [argumentsRest, Except.ok.injEq, Prod.mk.injEq] at h
      obtain ⟨rfl, rfl⟩ := h
      exact ⟨.nil, rfl, (Nat.zero_add _).symm, rfl, Nat.zero_le _⟩
  | succ steps ih =>
      simp only [argumentsRest] at h
      split at h
      · rename_i tokens hcomma
        simp only [bind_eq_ok, Prod.exists] at h
        obtain ⟨e, afterNext, hnext, es', afterRest, hrest, h⟩ := h
        simp only [Except.ok.injEq, Prod.mk.injEq] at h
        obtain ⟨rfl, rfl⟩ := h
        obtain ⟨next, htokens, hoperands, rfl, hdepth⟩ := hread hnext
        obtain ⟨further, hfurther, hcount, hexprs, hnesting⟩ := ih hrest
        simp only at htokens hoperands
        refine ⟨.cons es'.length next further, ?_, ?_, ?_, Nat.max_le.2 ⟨hdepth, hnesting⟩⟩
        · rw [hcomma, htokens, hfurther]
          simp [FurtherArguments.tokens]
        · simp only [FurtherArguments.primaries]
          omega
        · simp only [FurtherArguments.exprs, hexprs]
      · simp only [Except.ok.injEq, Prod.mk.injEq] at h
        obtain ⟨rfl, rfl⟩ := h
        exact ⟨.nil, rfl, (Nat.zero_add _).symm, rfl, Nat.zero_le _⟩

theorem explains_argumentsOf {depth : Nat} {read : Reader Expr}
    (hread : Explains depth .expression read) {input rest : Input} {es : List Expr}
    (h : argumentsOf read input = .ok (es, rest)) :
    ∃ arguments : Arguments es.length,
      input.tokens = arguments.tokens ++ .symbol .rightParen :: rest.tokens ∧
        input.operands = arguments.primaries + rest.operands ∧
        arguments.exprs = es ∧ arguments.nesting ≤ depth := by
  unfold argumentsOf at h
  split at h
  · rename_i tokens hclose
    simp only [Except.ok.injEq, Prod.mk.injEq] at h
    obtain ⟨rfl, rfl⟩ := h
    exact ⟨.none, hclose, (Nat.zero_add _).symm, rfl, Nat.zero_le _⟩
  · simp only [bind_eq_ok, Prod.exists] at h
    obtain ⟨e, afterFirst, hfirst, es', afterRest, hrest, ⟨⟩, afterClose, hclose, h⟩ := h
    simp only [Except.ok.injEq, Prod.mk.injEq] at h
    obtain ⟨rfl, rfl⟩ := h
    obtain ⟨first, htokens, hoperands, rfl, hdepth⟩ := hread hfirst
    obtain ⟨further, hfurther, hcount, hexprs, hnesting⟩ := explains_argumentsRest hread hrest
    obtain ⟨hparen, hkept⟩ := tokens_of_expect hclose
    refine ⟨.some es'.length first further, ?_, ?_, ?_, Nat.max_le.2 ⟨hdepth, hnesting⟩⟩
    · rw [htokens, hfurther, hparen]
      simp [Arguments.tokens]
    · simp only [Arguments.primaries]
      omega
    · simp only [Arguments.exprs, hexprs]

/-! ## Operands -/

theorem explains_primaryOf {depth : Nat} {read : Reader Expr}
    (hread : Explains depth .expression read) : Explains depth .primary (primaryOf read) := by
  intro input rest e h
  unfold primaryOf at h
  split at h
  · cases h
  · rename_i operands hoperands
    have literal {token : Token} {value : Literal} (hspells : Spells token value)
        {tokens : List Token} (htokens : input.tokens = token :: tokens)
        (h : Except.ok (Expr.literal value, Input.mk tokens operands) =
          (.ok (e, rest) : Except ParseError (Expr × Input))) :
        ∃ d : Derivation .primary, input.tokens = d.tokens ++ rest.tokens ∧
          input.operands = d.primaries + rest.operands ∧ d.expr = e ∧ d.nesting ≤ depth := by
      simp only [Except.ok.injEq, Prod.mk.injEq] at h
      obtain ⟨rfl, rfl⟩ := h
      refine ⟨.literal token value hspells, htokens, ?_, rfl, Nat.zero_le _⟩
      simp only [Derivation.primaries]
      omega
    split at h
    · exact literal (.number _) ‹_› h
    · exact literal (.text _) ‹_› h
    · exact literal (.boolean _) ‹_› h
    · exact literal .null ‹_› h
    · rename_i name tokens htokens
      unfold callOf at h
      split at h
      · cases h
      · rename_i f hf
        simp only [bind_eq_ok, Prod.exists] at h
        obtain ⟨es, afterCall, harguments, h⟩ := h
        split at h
        · rename_i hlegal
          simp only [Except.ok.injEq, Prod.mk.injEq] at h
          obtain ⟨rfl, rfl⟩ := h
          obtain ⟨arguments, hargs, hcount, hexprs, hnesting⟩ :=
            explains_argumentsOf hread harguments
          simp only at hargs hcount
          have hnamed := Function.ofName?_eq_some_iff.1 hf
          refine ⟨.call name f hnamed es.length arguments hlegal, ?_, ?_, ?_, hnesting⟩
          · rw [htokens, hargs]
            simp [Derivation.tokens]
          · simp only [Derivation.primaries]
            omega
          · simp only [Derivation.expr, hexprs]
        · cases h
    · rename_i name tokens _ htokens
      simp only [Except.ok.injEq, Prod.mk.injEq] at h
      obtain ⟨rfl, rfl⟩ := h
      refine ⟨.field name, htokens, ?_, rfl, Nat.zero_le _⟩
      simp only [Derivation.primaries]
      omega
    · rename_i tokens htokens
      simp only [bind_eq_ok, Prod.exists] at h
      obtain ⟨e', afterInner, hinner, ⟨⟩, afterClose, hclose, h⟩ := h
      simp only [Except.ok.injEq, Prod.mk.injEq] at h
      obtain ⟨rfl, rfl⟩ := h
      obtain ⟨inner, hinside, hcount, rfl, hnesting⟩ := hread hinner
      obtain ⟨hparen, hkept⟩ := tokens_of_expect hclose
      simp only at hinside hcount
      refine ⟨.group inner, ?_, ?_, rfl, hnesting⟩
      · rw [htokens, hinside, hparen]
        simp [Derivation.tokens]
      · simp only [Derivation.primaries]
        omega
    · cases h
    · cases h
    · cases h

/-- An operator before an operand takes a level, unless there is none left. -/
theorem explains_unaryOf {depth : Nat} {behind read : Reader Expr}
    (hbehind : ∀ ⦃input rest : Input⦄ ⦃e : Expr⦄, behind input = .ok (e, rest) →
      ∃ d : Derivation .unary, input.tokens = d.tokens ++ rest.tokens ∧
        input.operands = d.primaries + rest.operands ∧ d.expr = e ∧ d.nesting + 1 ≤ depth)
    (hread : Explains depth .expression read) :
    Explains depth .unary (unaryOf behind read) := by
  have bare : Explains depth .unary (primaryOf read) := by
    intro input rest e h
    obtain ⟨d, htokens, hoperands, hexpr, hnesting⟩ := explains_primaryOf hread h
    exact ⟨.bare d, htokens, hoperands, hexpr, hnesting⟩
  intro input rest e h
  unfold unaryOf at h
  split at h
  · rename_i s tokens htokens
    split at h
    · rename_i op hop
      simp only [bind_eq_ok, Prod.exists] at h
      obtain ⟨e', afterOperand, hoperand, h⟩ := h
      simp only [Except.ok.injEq, Prod.mk.injEq] at h
      obtain ⟨rfl, rfl⟩ := h
      obtain ⟨operand, hinside, hcount, rfl, hnesting⟩ := hbehind hoperand
      simp only at hinside
      refine ⟨.prefixed s op (prefixOp?_eq_some_iff.1 hop) operand, ?_, hcount, rfl, hnesting⟩
      rw [htokens, hinside]
      rfl
    · exact bare h
  · exact bare h

/-! ## Phrases -/

theorem explains_joined {depth : Nat}
    (hunary : Explains depth .unary (reader depth .unary)) (rank : Rank) :
    Explains depth (.joined rank) (reader depth (.joined rank)) := by
  have step (rank : Rank) (h : Explains depth rank.operand (reader depth rank.operand)) :
      Explains depth (.joined rank) (reader depth (.joined rank)) := by
    rw [reader_joined]
    exact explains_chain h
  have multiplicative := step .multiplicative hunary
  have additive := step .additive multiplicative
  have relational := step .relational additive
  have equality := step .equality relational
  have and := step .and equality
  have or := step .or and
  cases rank <;> assumption

theorem explains_expression_succ {depth : Nat}
    (h : Explains depth .conditional (reader depth .conditional)) :
    Explains (depth + 1) .expression (reader (depth + 1) .expression) := by
  intro input rest e hread
  rw [reader_expression_succ] at hread
  obtain ⟨body, htokens, hoperands, hexpr, hnesting⟩ := h hread
  exact ⟨.expression body, htokens, hoperands, hexpr, Nat.succ_le_succ hnesting⟩

/-- The readers of expressions and operands give what has a derivation. -/
theorem explains_reader (depth : Nat) :
    Explains depth .expression (reader depth .expression) ∧
      Explains depth .unary (reader depth .unary) := by
  induction depth with
  | zero =>
      have hexpression : Explains 0 .expression (reader 0 .expression) := by
        intro input rest e h
        simp [reader_expression_zero] at h
      refine ⟨hexpression, ?_⟩
      rw [reader_unary]
      refine explains_unaryOf ?_ hexpression
      intro input rest e h
      simp [deeper, tooDeep] at h
  | succ depth ih =>
      obtain ⟨hexpression, hunary⟩ := ih
      have hdeeper := explains_expression_succ
        (explains_conditional (explains_joined hunary .or) hexpression)
      refine ⟨hdeeper, ?_⟩
      rw [reader_unary]
      refine explains_unaryOf ?_ hdeeper
      intro input rest e h
      obtain ⟨d, htokens, hoperands, hexpr, hnesting⟩ := hunary h
      exact ⟨d, htokens, hoperands, hexpr, Nat.succ_le_succ hnesting⟩

end Expr
end RecordGrid
