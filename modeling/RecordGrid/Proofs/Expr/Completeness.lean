import RecordGrid.Proofs.Expr.Soundness

/-!
# What has a derivation is read

The reader of a phrase takes the tokens of a derivation and nothing more, as
long as what follows does not go on with the phrase.  Symbols are ordered by
how tightly they bind what stands before them: a symbol goes on with the
phrases that bind at most as tightly.  The last theorem puts both directions
together.
-/

namespace RecordGrid
namespace Expr

/-! ## What goes on with a phrase -/

/-- How tightly a symbol binds the phrase before it, where it goes on with one. -/
def strength? : Symbol → Option Nat
  | .question => some 0
  | .or => some 1
  | .and => some 2
  | .equal | .notEqual => some 3
  | .less | .greater | .lessEqual | .greaterEqual => some 4
  | .plus | .minus => some 5
  | .asterisk | .slash | .percent => some 6
  | .leftParen => some 7
  | .bang | .colon | .rightParen | .comma => none

/-- The least strength of a symbol that goes on with a phrase. -/
def Phrase.strength : Phrase → Nat
  | .expression | .conditional => 0
  | .joined .or => 1
  | .joined .and => 2
  | .joined .equality => 3
  | .joined .relational => 4
  | .joined .additive => 5
  | .joined .multiplicative => 6
  | .unary | .primary => 7

/-- What follows a phrase does not go on with it. -/
def Stops (p : Phrase) (rest : List Token) : Prop :=
  ∀ s tokens n, rest = .symbol s :: tokens → strength? s = some n → n < p.strength

theorem Stops.mono {p q : Phrase} {rest : List Token} (h : Stops p rest)
    (hpq : p.strength ≤ q.strength) : Stops q rest := by
  intro s tokens n hrest hs
  exact Nat.lt_of_lt_of_le (h s tokens n hrest hs) hpq

theorem stops_nil (p : Phrase) : Stops p [] := by
  intro s tokens n hrest
  cases hrest

theorem stops_cons {p : Phrase} {s : Symbol} {tokens : List Token}
    (h : ∀ n, strength? s = some n → n < p.strength) : Stops p (.symbol s :: tokens) := by
  intro s' tokens' n hrest hs
  cases hrest
  exact h n hs

theorem stops_cons_of_none {p : Phrase} {s : Symbol} {tokens : List Token}
    (h : strength? s = none) : Stops p (.symbol s :: tokens) :=
  stops_cons (by simp [h])

theorem Rank.Joins.strength_eq {rank : Rank} {s : Symbol} {join : Expr → Expr → Expr}
    (h : rank.Joins s join) : strength? s = some (Phrase.joined rank).strength := by
  cases h <;> rfl

theorem Rank.strength_operand (rank : Rank) :
    rank.operand.strength = (Phrase.joined rank).strength + 1 := by
  cases rank <;> rfl

/-- An operator of a level ends the operand before it. -/
theorem Rank.Joins.stops_operand {rank : Rank} {s : Symbol} {join : Expr → Expr → Expr}
    (h : rank.Joins s join) (tokens : List Token) :
    Stops rank.operand (.symbol s :: tokens) := by
  apply stops_cons
  intro n hn
  rw [h.strength_eq, Option.some.injEq] at hn
  rw [rank.strength_operand]
  omega

theorem Stops.operand {rank : Rank} {rest : List Token} (h : Stops (.joined rank) rest) :
    Stops rank.operand rest :=
  h.mono (by rw [rank.strength_operand]; omega)

theorem Stops.head_ne {p : Phrase} {s : Symbol} {n : Nat} {rest : List Token}
    (h : Stops p rest) (hs : strength? s = some n) (hp : p.strength ≤ n)
    (tokens : List Token) : rest ≠ .symbol s :: tokens := by
  intro hrest
  have := h s tokens n hrest hs
  omega

/-! ## How a derivation begins -/

/-- No phrase begins with a closing parenthesis. -/
theorem Derivation.tokens_eq_cons {p : Phrase} (d : Derivation p) :
    ∃ token tokens, d.tokens = token :: tokens ∧ token ≠ .symbol .rightParen := by
  match d with
  | .expression body => exact body.tokens_eq_cons
  | .condition only => exact only.tokens_eq_cons
  | .conditional asked _ _ =>
      obtain ⟨token, tokens, htokens, hne⟩ := asked.tokens_eq_cons
      exact ⟨token, _, by rw [Derivation.tokens, htokens]; rfl, hne⟩
  | .operand _ only => exact only.tokens_eq_cons
  | .chain _ left _ _ _ _ =>
      obtain ⟨token, tokens, htokens, hne⟩ := left.tokens_eq_cons
      exact ⟨token, _, by rw [Derivation.tokens, htokens]; rfl, hne⟩
  | .bare inner => exact inner.tokens_eq_cons
  | .prefixed s _ prefixes _ =>
      refine ⟨.symbol s, _, rfl, ?_⟩
      cases prefixes <;> simp
  | .literal token _ spells =>
      refine ⟨token, [], rfl, ?_⟩
      cases spells <;> simp
  | .field name => exact ⟨.identifier name, [], rfl, by simp⟩
  | .group _ => exact ⟨.symbol .leftParen, _, rfl, by simp⟩
  | .call name _ _ _ _ _ => exact ⟨.identifier name, _, rfl, by simp⟩

/-- No primary begins with a prefix operator. -/
theorem Derivation.primary_tokens_eq_cons (d : Derivation .primary) :
    ∃ token tokens, d.tokens = token :: tokens ∧
      ∀ s, token = .symbol s → prefixOp? s = none := by
  match d with
  | .literal token _ spells =>
      refine ⟨token, [], rfl, ?_⟩
      cases spells <;> simp
  | .field name => exact ⟨.identifier name, [], rfl, by simp⟩
  | .group _ =>
      refine ⟨.symbol .leftParen, _, rfl, ?_⟩
      rintro s ⟨⟩
      rfl
  | .call name _ _ _ _ _ => exact ⟨.identifier name, _, rfl, by simp⟩

/-! ## Reading a derivation -/

/-- The reader of a phrase takes the tokens of the derivation off, and as many
primaries as it has. -/
def Derivation.ReadBy (depth : Nat) {p : Phrase} (d : Derivation p) : Prop :=
  ∀ rest operands, Stops p rest →
    reader depth p ⟨d.tokens ++ rest, d.primaries + operands⟩ = .ok (d.expr, ⟨rest, operands⟩)

/-- Reading the first operand of a chain and going on for some steps takes the
tokens of the derivation off; further steps are left to what follows. -/
def Derivation.UnrolledBy (depth : Nat) {rank : Rank} (d : Derivation (.joined rank)) : Prop :=
  ∀ rest operands, Stops rank.operand rest →
    ∃ first input steps,
      reader depth rank.operand ⟨d.tokens ++ rest, d.primaries + operands⟩ =
          .ok (first, input) ∧
        steps + rest.length ≤ input.tokens.length ∧
        ∀ more, chainRest rank.level (reader depth rank.operand) (steps + more) first input =
          chainRest rank.level (reader depth rank.operand) more d.expr ⟨rest, operands⟩

theorem unrolledBy_operand {depth : Nat} {rank : Rank} {only : Derivation rank.operand}
    (h : only.ReadBy depth) : (Derivation.operand rank only).UnrolledBy depth := by
  intro rest operands hstops
  refine ⟨only.expr, ⟨rest, operands⟩, 0, h rest operands hstops, by simp, ?_⟩
  intro more
  rw [Nat.zero_add]
  rfl

theorem unrolledBy_chain {depth : Nat} {rank : Rank} {left : Derivation (.joined rank)}
    {s : Symbol} {join : Expr → Expr → Expr} {joins : rank.Joins s join}
    {right : Derivation rank.operand} (hleft : left.UnrolledBy depth)
    (hright : right.ReadBy depth) :
    (Derivation.chain rank left s join joins right).UnrolledBy depth := by
  intro rest operands hstops
  obtain ⟨first, input, steps, hfirst, hlength, hsteps⟩ :=
    hleft (.symbol s :: (right.tokens ++ rest)) (right.primaries + operands)
      (joins.stops_operand _)
  refine ⟨first, input, steps + 1, ?_, ?_, ?_⟩
  · simpa [Derivation.tokens, Derivation.primaries, Nat.add_assoc] using hfirst
  · simp only [List.length_cons, List.length_append] at hlength
    omega
  · intro more
    have hjoin := Rank.level_eq_some_iff.2 joins
    have hread := hright rest operands hstops
    calc chainRest rank.level (reader depth rank.operand) (steps + 1 + more) first input
        = chainRest rank.level (reader depth rank.operand) (more + 1) left.expr
            ⟨.symbol s :: (right.tokens ++ rest), right.primaries + operands⟩ := by
          rw [show steps + 1 + more = steps + (more + 1) by omega]
          exact hsteps (more + 1)
      _ = chainRest rank.level (reader depth rank.operand) more (join left.expr right.expr)
            ⟨rest, operands⟩ := by
          simp only [chainRest, hjoin, hread, ok_bind]

/-- A chain stops where no operator of its level follows, however many steps
are left. -/
theorem chainRest_of_stops {rank : Rank} {next : Reader Expr} {rest : List Token}
    (h : Stops (.joined rank) rest) (steps : Nat) (left : Expr) (operands : Nat) :
    chainRest rank.level next steps left ⟨rest, operands⟩ = .ok (left, ⟨rest, operands⟩) := by
  cases steps with
  | zero => rfl
  | succ steps =>
      simp only [chainRest]
      split
      · rename_i s tokens
        split
        · rename_i join hjoin
          have hs := (Rank.level_eq_some_iff.1 hjoin).strength_eq
          exact absurd rfl (h.head_ne hs (Nat.le_refl _) tokens)
        · rfl
      · rfl

theorem Derivation.UnrolledBy.readBy {depth : Nat} {rank : Rank}
    {d : Derivation (.joined rank)} (h : d.UnrolledBy depth) : d.ReadBy depth := by
  intro rest operands hstops
  obtain ⟨first, input, steps, hfirst, hlength, hsteps⟩ := h rest operands hstops.operand
  obtain ⟨more, hmore⟩ : ∃ more, input.tokens.length = steps + more :=
    ⟨input.tokens.length - steps, by omega⟩
  rw [reader_joined]
  simp only [Expr.chain, hfirst, ok_bind]
  rw [hmore, hsteps more]
  exact chainRest_of_stops hstops more d.expr operands

theorem expect_cons (s : Symbol) (rest : List Token) (operands : Nat) :
    expect s ⟨.symbol s :: rest, operands⟩ = .ok ((), ⟨rest, operands⟩) := by
  simp [expect]

theorem readBy_condition {depth : Nat} {only : Derivation (.joined .or)}
    (h : only.ReadBy depth) : (Derivation.condition only).ReadBy depth := by
  intro rest operands hstops
  have honly := h rest operands (hstops.mono (Nat.zero_le _))
  simp only [reader_conditional, Derivation.tokens, Derivation.primaries, Derivation.expr,
    honly, ok_bind]
  split
  · rename_i tokens
    exact absurd rfl (hstops.head_ne (s := .question) rfl (Nat.le_refl _) tokens)
  · rfl

theorem readBy_conditional {depth : Nat} {condition : Derivation (.joined .or)}
    {onTrue onFalse : Derivation .expression} (hcondition : condition.ReadBy depth)
    (htrue : onTrue.ReadBy depth) (hfalse : onFalse.ReadBy depth) :
    (Derivation.conditional condition onTrue onFalse).ReadBy depth := by
  intro rest operands hstops
  have hquestion : Stops (.joined .or) (.symbol .question ::
      (onTrue.tokens ++ .symbol .colon :: (onFalse.tokens ++ rest))) := by
    apply stops_cons
    rintro n ⟨⟩
    decide
  have hcolon : Stops .expression (.symbol .colon :: (onFalse.tokens ++ rest)) :=
    stops_cons_of_none rfl
  have h₁ := hcondition _ (onTrue.primaries + (onFalse.primaries + operands)) hquestion
  have h₂ := htrue _ (onFalse.primaries + operands) hcolon
  have h₃ := hfalse rest operands (hstops.mono (Nat.le_refl _))
  simp only [Derivation.tokens, Derivation.primaries, Derivation.expr, List.append_assoc,
    List.cons_append, Nat.add_assoc, reader_conditional, h₁, h₂, h₃, expect_cons, ok_bind]

/-! ## Arguments -/

/-- Reading further arguments stops at the closing parenthesis behind them. -/
def FurtherArguments.ReadBy (depth : Nat) {count : Nat} (further : FurtherArguments count) :
    Prop :=
  ∀ rest operands more,
    argumentsRest (reader depth .expression) (count + more)
        ⟨further.tokens ++ .symbol .rightParen :: rest, further.primaries + operands⟩ =
      .ok (further.exprs, ⟨.symbol .rightParen :: rest, operands⟩)

def Arguments.ReadBy (depth : Nat) {count : Nat} (arguments : Arguments count) : Prop :=
  ∀ rest operands,
    argumentsOf (reader depth .expression)
        ⟨arguments.tokens ++ .symbol .rightParen :: rest, arguments.primaries + operands⟩ =
      .ok (arguments.exprs, ⟨rest, operands⟩)

theorem readBy_noFurther (depth : Nat) : FurtherArguments.nil.ReadBy depth := by
  intro rest operands more
  cases more with
  | zero => simp [argumentsRest, FurtherArguments.tokens, FurtherArguments.primaries,
      FurtherArguments.exprs]
  | succ more => simp [argumentsRest, FurtherArguments.tokens, FurtherArguments.primaries,
      FurtherArguments.exprs]

/-- What stands behind an argument ends it. -/
theorem FurtherArguments.stops {count : Nat} (further : FurtherArguments count)
    (rest : List Token) :
    Stops .expression (further.tokens ++ .symbol .rightParen :: rest) := by
  cases further with
  | nil => exact stops_cons_of_none rfl
  | cons count next further => exact stops_cons_of_none rfl

theorem readBy_further {depth count : Nat} {next : Derivation .expression}
    {further : FurtherArguments count} (hnext : next.ReadBy depth)
    (hfurther : further.ReadBy depth) :
    (FurtherArguments.cons count next further).ReadBy depth := by
  intro rest operands more
  have h₁ := hnext _ (further.primaries + operands) (further.stops rest)
  have h₂ := hfurther rest operands more
  rw [show count + 1 + more = count + more + 1 by omega]
  simp only [argumentsRest, FurtherArguments.tokens, FurtherArguments.primaries,
    FurtherArguments.exprs, List.cons_append, List.append_assoc, Nat.add_assoc, h₁, h₂,
    ok_bind]

theorem FurtherArguments.count_le {count : Nat} (further : FurtherArguments count) :
    count ≤ further.tokens.length := by
  match further with
  | .nil => exact Nat.zero_le _
  | .cons count _ rest =>
      have := rest.count_le
      simp only [FurtherArguments.tokens, List.length_cons, List.length_append]
      omega

theorem readBy_noArguments (depth : Nat) : Arguments.none.ReadBy depth := by
  intro rest operands
  simp [argumentsOf, Arguments.tokens, Arguments.primaries, Arguments.exprs]

theorem readBy_arguments {depth count : Nat} {first : Derivation .expression}
    {further : FurtherArguments count} (hfirst : first.ReadBy depth)
    (hfurther : further.ReadBy depth) :
    (Arguments.some count first further).ReadBy depth := by
  intro rest operands
  have h₁ := hfirst _ (further.primaries + operands) (further.stops rest)
  obtain ⟨more, hmore⟩ : ∃ more,
      (further.tokens ++ .symbol .rightParen :: rest).length = count + more := by
    have := further.count_le
    refine ⟨(further.tokens ++ .symbol .rightParen :: rest).length - count, ?_⟩
    simp only [List.length_append]
    omega
  have h₂ := hfurther rest operands more
  obtain ⟨token, tokens, htokens, hne⟩ := first.tokens_eq_cons
  simp only [Arguments.tokens, Arguments.primaries, Arguments.exprs, List.append_assoc,
    Nat.add_assoc]
  unfold argumentsOf
  split
  · rename_i tail hclose
    rw [htokens] at hclose
    simp only [List.cons_append, List.cons.injEq] at hclose
    exact absurd hclose.1 hne
  · simp only [h₁, ok_bind, hmore, h₂, expect_cons]

/-! ## Operands -/

theorem readBy_bare {depth : Nat} {operand : Derivation .primary}
    (h : operand.ReadBy depth) : (Derivation.bare operand).ReadBy depth := by
  intro rest operands hstops
  obtain ⟨token, tokens, htokens, hunprefixed⟩ := operand.primary_tokens_eq_cons
  have hoperand := h rest operands (hstops.mono (Nat.le_refl _))
  rw [reader_primary] at hoperand
  simp only [Derivation.tokens, Derivation.primaries, Derivation.expr]
  rw [reader_unary]
  unfold unaryOf
  split
  · rename_i s tail hhead
    rw [htokens] at hhead
    simp only [List.cons_append, List.cons.injEq] at hhead
    simp only [hunprefixed s hhead.1]
    exact hoperand
  · exact hoperand

theorem readBy_prefixed {depth : Nat} {s : Symbol} {op : UnaryOp} {prefixes : Prefixes s op}
    {operand : Derivation .unary} (h : operand.ReadBy depth) :
    (Derivation.prefixed s op prefixes operand).ReadBy (depth + 1) := by
  intro rest operands hstops
  have hoperand := h rest operands hstops
  have hop := prefixOp?_eq_some_iff.2 prefixes
  rw [reader_unary]
  simp only [Derivation.tokens, Derivation.primaries, Derivation.expr, List.cons_append,
    unaryOf, hop, deeper, hoperand, ok_bind]

theorem readBy_literal (depth : Nat) {token : Token} {value : Literal}
    (spells : Spells token value) : (Derivation.literal token value spells).ReadBy depth := by
  intro rest operands hstops
  simp only [reader_primary, Derivation.tokens, Derivation.primaries, Derivation.expr,
    List.cons_append, List.nil_append, Nat.add_comm 1 operands]
  cases spells <;> rfl

theorem readBy_field (depth : Nat) (name : String) :
    (Derivation.field name).ReadBy depth := by
  intro rest operands hstops
  simp only [reader_primary, Derivation.tokens, Derivation.primaries, Derivation.expr,
    List.cons_append, List.nil_append, Nat.add_comm 1 operands]
  -- the name would be that of a call
  have hcall : ∀ tokens, rest ≠ .symbol .leftParen :: tokens :=
    hstops.head_ne rfl (Nat.le_refl _)
  simp [primaryOf]

theorem readBy_group {depth : Nat} {inner : Derivation .expression}
    (h : inner.ReadBy depth) : (Derivation.group inner).ReadBy depth := by
  intro rest operands hstops
  have hinner := h (.symbol .rightParen :: rest) operands (stops_cons_of_none rfl)
  simp only [reader_primary, Derivation.tokens, Derivation.primaries, Derivation.expr,
    List.cons_append, List.append_assoc, List.nil_append]
  rw [show inner.primaries + 1 + operands = inner.primaries + operands + 1 by omega]
  simp only [primaryOf, hinner, ok_bind, expect_cons]

theorem Arguments.length_exprs {count : Nat} (arguments : Arguments count) :
    arguments.exprs.length = count := by
  have further {count : Nat} (f : FurtherArguments count) : f.exprs.length = count := by
    induction count with
    | zero =>
        cases f
        rfl
    | succ count ih =>
        cases f with
        | cons count next rest => simp [FurtherArguments.exprs, ih rest]
  cases arguments with
  | none => rfl
  | some count first rest => simp [Arguments.exprs, further rest]

theorem readBy_call {depth : Nat} {name : String} {f : Function}
    {named : f.name = Text.toAsciiUpper name} {count : Nat} {arguments : Arguments count}
    {legal : f.accepts count = true} (h : arguments.ReadBy depth) :
    (Derivation.call name f named count arguments legal).ReadBy depth := by
  intro rest operands hstops
  have harguments := h rest operands
  have hf := Function.ofName?_eq_some_iff.2 named
  simp only [reader_primary, Derivation.tokens, Derivation.primaries, Derivation.expr,
    List.cons_append, List.append_assoc, List.nil_append]
  rw [show arguments.primaries + 1 + operands = arguments.primaries + operands + 1 by omega]
  simp only [primaryOf, callOf, hf, harguments, ok_bind, arguments.length_exprs, legal, if_true]

/-! ## Every derivation -/

theorem readBy_expression {depth : Nat} {body : Derivation .conditional}
    (h : body.ReadBy depth) : (Derivation.expression body).ReadBy (depth + 1) := by
  intro rest operands hstops
  rw [reader_expression_succ]
  exact h rest operands (hstops.mono (Nat.le_refl _))

mutual

/-- A derivation is read wherever as many levels are left as it nests. -/
theorem Derivation.readBy {p : Phrase} (d : Derivation p) (depth : Nat)
    (h : d.nesting ≤ depth) : d.ReadBy depth := by
  match d, depth, h with
  | .expression body, depth + 1, h =>
      exact readBy_expression (body.readBy depth (Nat.le_of_succ_le_succ h))
  | .condition only, depth, h => exact readBy_condition (only.readBy depth h)
  | .conditional asked onTrue onFalse, depth, h =>
      obtain ⟨h₁, h₂⟩ := Nat.max_le.1 h
      obtain ⟨h₂, h₃⟩ := Nat.max_le.1 h₂
      exact readBy_conditional (asked.readBy depth h₁) (onTrue.readBy depth h₂)
        (onFalse.readBy depth h₃)
  | .operand rank only, depth, h => exact (unrolledBy_operand (only.readBy depth h)).readBy
  | .chain rank left s join joins right, depth, h =>
      obtain ⟨h₁, h₂⟩ := Nat.max_le.1 h
      exact (unrolledBy_chain (left.unrolledBy depth h₁) (right.readBy depth h₂)).readBy
  | .bare operand, depth, h => exact readBy_bare (operand.readBy depth h)
  | .prefixed s op prefixes operand, depth + 1, h =>
      exact readBy_prefixed (operand.readBy depth (Nat.le_of_succ_le_succ h))
  | .literal token value spells, depth, h => exact readBy_literal depth spells
  | .field name, depth, h => exact readBy_field depth name
  | .group inner, depth, h => exact readBy_group (inner.readBy depth h)
  | .call name f named count arguments legal, depth, h =>
      exact readBy_call (arguments.readBy depth h)

theorem Derivation.unrolledBy {rank : Rank} (d : Derivation (.joined rank)) (depth : Nat)
    (h : d.nesting ≤ depth) : d.UnrolledBy depth := by
  match d with
  | .operand rank only => exact unrolledBy_operand (only.readBy depth h)
  | .chain rank left s join joins right =>
      obtain ⟨h₁, h₂⟩ := Nat.max_le.1 h
      exact unrolledBy_chain (left.unrolledBy depth h₁) (right.readBy depth h₂)

theorem Arguments.readBy {count : Nat} (arguments : Arguments count) (depth : Nat)
    (h : arguments.nesting ≤ depth) : arguments.ReadBy depth := by
  match arguments with
  | .none => exact readBy_noArguments depth
  | .some count first rest =>
      obtain ⟨h₁, h₂⟩ := Nat.max_le.1 h
      exact readBy_arguments (first.readBy depth h₁) (rest.readBy depth h₂)

theorem FurtherArguments.readBy {count : Nat} (further : FurtherArguments count) (depth : Nat)
    (h : further.nesting ≤ depth) : further.ReadBy depth := by
  match further with
  | .nil => exact readBy_noFurther depth
  | .cons count next rest =>
      obtain ⟨h₁, h₂⟩ := Nat.max_le.1 h
      exact readBy_further (next.readBy depth h₁) (rest.readBy depth h₂)

end

/-! ## Whole texts -/

theorem reader_nil (depth operands : Nat) (e : Expr) (rest : Input) :
    reader depth .expression ⟨[], operands⟩ ≠ .ok (e, rest) := by
  intro h
  obtain ⟨d, htokens, _⟩ := (explains_reader depth).1 h
  obtain ⟨token, tokens, hd, _⟩ := d.tokens_eq_cons
  simp [hd] at htokens

/-- Tokens are an expression where its reader leaves none of them. -/
theorem ofTokens_eq_ok_iff {tokens : List Token} {e : Expr} :
    ofTokens tokens = .ok e ↔
      ∃ operands, reader maxDepth .expression ⟨tokens, maxOperands⟩ =
        .ok (e, ⟨[], operands⟩) := by
  cases tokens with
  | nil =>
      constructor
      · intro h
        cases h
      · rintro ⟨operands, h⟩
        exact absurd h (reader_nil _ _ e _)
  | cons token tokens =>
      simp only [ofTokens, bind_eq_ok, Prod.exists]
      constructor
      · rintro ⟨e', ⟨left, operands⟩, hread, h⟩
        cases left with
        | nil =>
            simp only [Except.ok.injEq] at h
            subst h
            exact ⟨operands, hread⟩
        | cons found left => cases h
      · rintro ⟨operands, hread⟩
        exact ⟨e, ⟨[], operands⟩, hread, rfl⟩

/-- A text is read as an expression exactly where its tokens have a derivation
with that expression that nests no more than 64 levels and has no more than 256
primaries. -/
theorem parse_eq_ok_iff_derivation (text : String) (e : Expr) :
    parse text = .ok e ↔
      ∃ d : Derivation .expression, d.tokens = Token.tokens text.toList ∧ d.expr = e ∧
        d.nesting ≤ 64 ∧ d.primaries ≤ 256 := by
  unfold parse
  rw [ofTokens_eq_ok_iff]
  constructor
  · rintro ⟨operands, h⟩
    obtain ⟨d, htokens, hoperands, hexpr, hnesting⟩ := (explains_reader maxDepth).1 h
    refine ⟨d, ?_, hexpr, hnesting, ?_⟩
    · simpa using htokens.symm
    · simp only [maxOperands] at hoperands
      omega
  · rintro ⟨d, htokens, rfl, hnesting, hprimaries⟩
    have hread := d.readBy maxDepth hnesting [] (256 - d.primaries) (stops_nil _)
    rw [List.append_nil, htokens, Nat.add_sub_cancel' hprimaries] at hread
    exact ⟨256 - d.primaries, hread⟩

end Expr
end RecordGrid
