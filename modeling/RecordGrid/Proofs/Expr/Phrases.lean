import RecordGrid.Proofs.Expr.Grammar

/-!
# Readers of phrases

Every kind of phrase has a reader.  This file names it, and ties the tables
that the readers consult to those of the grammar.
-/

namespace RecordGrid

theorem Function.ofName?_eq_some_iff {name : String} {f : Function} :
    Function.ofName? name = some f ↔ f.name = Text.toAsciiUpper name := by
  unfold Function.ofName?
  generalize Text.toAsciiUpper name = upper
  constructor
  · intro h
    have hname := List.find?_some h
    simpa using hname
  · intro h
    subst h
    cases f <;> decide

namespace Expr

theorem bind_eq_ok {α β ε : Type} {x : Except ε α} {f : α → Except ε β} {b : β} :
    x >>= f = .ok b ↔ ∃ a, x = .ok a ∧ f a = .ok b := by
  cases x with
  | error e => simp [bind, Except.bind]
  | ok a => simp [bind, Except.bind]

theorem ok_bind {α β ε : Type} (a : α) (f : α → Except ε β) : Except.ok a >>= f = f a := rfl

/-! ## The tables -/

/-- The operators of a level, as its reader looks them up. -/
def Rank.level : Rank → Level
  | .or => orLevel
  | .and => andLevel
  | .equality => equalityLevel
  | .relational => relationalLevel
  | .additive => additiveLevel
  | .multiplicative => multiplicativeLevel

theorem Rank.level_eq_some_iff {rank : Rank} {s : Symbol} {join : Expr → Expr → Expr} :
    rank.level s = some join ↔ rank.Joins s join := by
  constructor
  · intro h
    cases rank <;> cases s <;>
      simp only [level, orLevel, andLevel, equalityLevel, relationalLevel, additiveLevel,
        multiplicativeLevel, Option.some.injEq, reduceCtorEq] at h <;>
      subst h <;> constructor
  · intro h
    cases h <;> rfl

theorem prefixOp?_eq_some_iff {s : Symbol} {op : UnaryOp} :
    prefixOp? s = some op ↔ Prefixes s op := by
  constructor
  · intro h
    cases s <;> simp only [prefixOp?, Option.some.injEq, reduceCtorEq] at h <;>
      subst h <;> constructor
  · intro h
    cases h <;> rfl

/-! ## The readers -/

/-- The reader of a kind of phrase inside which `depth` more levels may be
entered. -/
def reader (depth : Nat) : Phrase → Reader Expr
  | .expression => expressionWithin depth
  | .conditional => conditionalOf (operandWithin depth) (expressionWithin depth)
  | .joined .or => binaries levels (operandWithin depth)
  | .joined .and =>
      binaries [andLevel, equalityLevel, relationalLevel, additiveLevel, multiplicativeLevel]
        (operandWithin depth)
  | .joined .equality =>
      binaries [equalityLevel, relationalLevel, additiveLevel, multiplicativeLevel]
        (operandWithin depth)
  | .joined .relational =>
      binaries [relationalLevel, additiveLevel, multiplicativeLevel] (operandWithin depth)
  | .joined .additive => binaries [additiveLevel, multiplicativeLevel] (operandWithin depth)
  | .joined .multiplicative => binaries [multiplicativeLevel] (operandWithin depth)
  | .unary => operandWithin depth
  | .primary => primaryOf (expressionWithin depth)

theorem reader_joined (depth : Nat) (rank : Rank) :
    reader depth (.joined rank) = chain rank.level (reader depth rank.operand) := by
  cases rank <;> rfl

theorem reader_conditional (depth : Nat) (input : Input) :
    reader depth .conditional input =
      (do
        let (condition, input) ← reader depth (.joined .or) input
        match input.tokens with
        | .symbol .question :: rest => do
            let (onTrue, input) ← reader depth .expression { input with tokens := rest }
            let (_, input) ← expect .colon input
            let (onFalse, input) ← reader depth .expression input
            .ok (.conditional condition onTrue onFalse, input)
        | _ => .ok (condition, input)) := rfl

theorem reader_expression_zero (input : Input) :
    reader 0 .expression input = .error .tooDeep := by
  simp [reader, expressionWithin, tooDeep]

theorem reader_expression_succ (depth : Nat) :
    reader (depth + 1) .expression = reader depth .conditional := by
  funext input
  simp [reader, expressionWithin]

/-- The reader of what stands behind a prefix operator. -/
def deeper : (depth : Nat) → Reader Expr
  | 0 => tooDeep
  | depth + 1 => reader depth .unary

theorem reader_unary (depth : Nat) :
    reader depth .unary = unaryOf (deeper depth) (reader depth .expression) := by
  funext input
  cases depth with
  | zero =>
      have hdeep : expressionWithin 0 = tooDeep := by
        funext input
        simp [expressionWithin]
      simp [reader, operandWithin, deeper, hdeep]
  | succ depth =>
      have hexpression := reader_expression_succ depth
      simp only [reader] at hexpression
      simp only [reader, operandWithin, deeper, hexpression]

theorem reader_primary (depth : Nat) :
    reader depth .primary = primaryOf (reader depth .expression) := rfl

end Expr
end RecordGrid
