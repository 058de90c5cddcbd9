import RecordGrid.Expr.Basic
import RecordGrid.Expr.Lexeme
import RecordGrid.Text.Case

/-!
# From tokens to expressions

The grammar, loosest first:

    expression   conditional
    conditional  or [ "?" expression ":" expression ]
    or           and, joined by "||"
    and          equality, joined by "&&"
    equality     relational, joined by "==" and "!="
    relational   additive, joined by "<", ">", "<=" and ">="
    additive     multiplicative, joined by "+" and "-"
    multiplicative  unary, joined by "*", "/" and "%"
    unary        ("-" | "+" | "!") unary, or a primary
    primary      literal, field, call, or "(" expression ")"

Chains of operators nest to the left.  Expressions and the operands of unary
operators nest at most 64 deep, and an expression has at most 256 primaries.
The depth that is left is what the recursion of the grammar descends on.
-/

namespace RecordGrid

inductive ParseError where
  | empty
  | trailing (found : Token)
  | expected (wanted : Symbol) (found : Option Token)
  | tooDeep
  | tooManyOperands
  | unexpectedEnd
  | illegal (c : Char)
  | unexpected (found : Token)
  | unknownFunction (name : String)
  | arity (function : Function) (given : Nat)
deriving DecidableEq

namespace Function

/-- The number of arguments a function takes, in words. -/
def arityText (f : Function) : String :=
  match f.maxArgs with
  | none => "at least " ++ toString f.minArgs
  | some most =>
      if most = f.minArgs then toString f.minArgs
      else toString f.minArgs ++ " to " ++ toString most

/-- The function of a name, in any case of its letters. -/
def ofName? (name : String) : Option Function :=
  Function.all.find? fun f => f.name == Text.toAsciiUpper name

end Function

namespace ParseError

def message : ParseError → String
  | .empty => "Empty expression"
  | .trailing found => "Unexpected token after expression: " ++ found.shown
  | .expected wanted found => "Expected " ++ wanted.text ++ ", found " ++ Token.shownFirst found
  | .tooDeep => "Expression nested too deeply"
  | .tooManyOperands => "Expression has too many operands"
  | .unexpectedEnd => "Unexpected end of expression"
  | .illegal c => "Illegal character: " ++ String.singleton c
  | .unexpected found => "Unexpected token: " ++ found.shown
  | .unknownFunction name => "Unknown function: " ++ name
  | .arity f given =>
      f.name ++ " expects " ++ f.arityText ++ " arguments, got " ++ toString given

def report (e : ParseError) : String := "Parse error: " ++ e.message

end ParseError

namespace Expr

def maxDepth : Nat := 64

def maxOperands : Nat := 256

/-- What is left to read, and how many primaries it may still have. -/
structure Input where
  tokens : List Token
  operands : Nat

abbrev Reader (α : Type) := Input → Except ParseError (α × Input)

def tooDeep : Reader Expr := fun _ => .error .tooDeep

def expect (wanted : Symbol) : Reader Unit := fun input =>
  match input.tokens with
  | .symbol s :: rest =>
      if s = wanted then .ok ((), { input with tokens := rest })
      else .error (.expected wanted (some (.symbol s)))
  | found => .error (.expected wanted found.head?)

/-- The operators of one level of the grammar, by their symbols. -/
abbrev Level := Symbol → Option (Expr → Expr → Expr)

def orLevel : Level
  | .or => some (.logical .or)
  | _ => none

def andLevel : Level
  | .and => some (.logical .and)
  | _ => none

def equalityLevel : Level
  | .equal => some (.binary .equal)
  | .notEqual => some (.binary .notEqual)
  | _ => none

def relationalLevel : Level
  | .less => some (.binary .less)
  | .greater => some (.binary .greater)
  | .lessEqual => some (.binary .lessEqual)
  | .greaterEqual => some (.binary .greaterEqual)
  | _ => none

def additiveLevel : Level
  | .plus => some (.binary .add)
  | .minus => some (.binary .subtract)
  | _ => none

def multiplicativeLevel : Level
  | .asterisk => some (.binary .multiply)
  | .slash => some (.binary .divide)
  | .percent => some (.binary .modulo)
  | _ => none

/-- The levels of binary operators, loosest first. -/
def levels : List Level :=
  [orLevel, andLevel, equalityLevel, relationalLevel, additiveLevel, multiplicativeLevel]

/-- Goes on with a chain whose left part has been read.  Every operator takes
a token, so as many steps as there are tokens are enough. -/
def chainRest (level : Level) (next : Reader Expr) : (steps : Nat) → Expr → Reader Expr
  | 0, left, input => .ok (left, input)
  | steps + 1, left, input =>
      match input.tokens with
      | .symbol s :: rest =>
          match level s with
          | some join => do
              let (right, input) ← next { input with tokens := rest }
              chainRest level next steps (join left right) input
          | none => .ok (left, input)
      | _ => .ok (left, input)

/-- Operands joined by the operators of a level, nested to the left. -/
def chain (level : Level) (next : Reader Expr) : Reader Expr := fun input => do
  let (left, input) ← next input
  chainRest level next input.tokens.length left input

/-- Operands joined by binary operators of the given levels. -/
def binaries (levels : List Level) (operand : Reader Expr) : Reader Expr :=
  levels.foldr chain operand

/-- A conditional, or just its condition. -/
def conditionalOf (operand expression : Reader Expr) : Reader Expr := fun input => do
  let (condition, input) ← binaries levels operand input
  match input.tokens with
  | .symbol .question :: rest => do
      let (onTrue, input) ← expression { input with tokens := rest }
      let (_, input) ← expect .colon input
      let (onFalse, input) ← expression input
      .ok (.conditional condition onTrue onFalse, input)
  | _ => .ok (condition, input)

/-- The arguments after one that has been read, each behind a comma. -/
def argumentsRest (expression : Reader Expr) : (steps : Nat) → Reader (List Expr)
  | 0, input => .ok ([], input)
  | steps + 1, input =>
      match input.tokens with
      | .symbol .comma :: rest => do
          let (arg, input) ← expression { input with tokens := rest }
          let (args, input) ← argumentsRest expression steps input
          .ok (arg :: args, input)
      | _ => .ok ([], input)

def argumentsOf (expression : Reader Expr) : Reader (List Expr) := fun input =>
  match input.tokens with
  | .symbol .rightParen :: rest => .ok ([], { input with tokens := rest })
  | _ => do
      let (arg, input) ← expression input
      let (args, input) ← argumentsRest expression input.tokens.length input
      let (_, input) ← expect .rightParen input
      .ok (arg :: args, input)

def callOf (expression : Reader Expr) (name : String) : Reader Expr := fun input =>
  match Function.ofName? name with
  | none => .error (.unknownFunction name)
  | some f => do
      let (args, input) ← argumentsOf expression input
      if f.accepts args.length then .ok (.call f args, input)
      else .error (.arity f args.length)

def primaryOf (expression : Reader Expr) : Reader Expr := fun input =>
  match input.operands with
  | 0 => .error .tooManyOperands
  | operands + 1 =>
      match input.tokens with
      | .number x :: rest => .ok (.literal (.number x), ⟨rest, operands⟩)
      | .text s :: rest => .ok (.literal (.text s), ⟨rest, operands⟩)
      | .boolean b :: rest => .ok (.literal (.boolean b), ⟨rest, operands⟩)
      | .null :: rest => .ok (.literal .null, ⟨rest, operands⟩)
      | .identifier name :: .symbol .leftParen :: rest => callOf expression name ⟨rest, operands⟩
      | .identifier name :: rest => .ok (.field name, ⟨rest, operands⟩)
      | .symbol .leftParen :: rest => do
          let (inner, input) ← expression ⟨rest, operands⟩
          let (_, input) ← expect .rightParen input
          .ok (inner, input)
      | [] => .error .unexpectedEnd
      | .illegal c :: _ => .error (.illegal c)
      | found :: _ => .error (.unexpected found)

/-- The operator that a symbol stands for before its operand. -/
def prefixOp? : Symbol → Option UnaryOp
  | .minus => some .negate
  | .plus => some .plus
  | .bang => some .not
  | _ => none

/-- An operand with the unary operators before it. -/
def unaryOf (deeper expression : Reader Expr) : Reader Expr := fun input =>
  match input.tokens with
  | .symbol s :: rest =>
      match prefixOp? s with
      | some op => do
          let (operand, input) ← deeper { input with tokens := rest }
          .ok (.unary op operand, input)
      | none => primaryOf expression input
  | _ => primaryOf expression input

mutual

/-- An operand inside which `depth` more levels may be entered. -/
def operandWithin : (depth : Nat) → Reader Expr
  | 0, input => unaryOf tooDeep tooDeep input
  | depth + 1, input =>
      unaryOf (operandWithin depth)
        (conditionalOf (operandWithin depth) (expressionWithin depth)) input

/-- An expression, which enters one of `depth` levels. -/
def expressionWithin : (depth : Nat) → Reader Expr
  | 0, input => tooDeep input
  | depth + 1, input => conditionalOf (operandWithin depth) (expressionWithin depth) input

end

def ofTokens (tokens : List Token) : Except ParseError Expr :=
  match tokens with
  | [] => .error .empty
  | _ => do
      let (e, input) ← expressionWithin maxDepth ⟨tokens, maxOperands⟩
      match input.tokens with
      | [] => .ok e
      | found :: _ => .error (.trailing found)

def parse (text : String) : Except ParseError Expr := ofTokens (Token.tokens text.toList)

end Expr

end RecordGrid
