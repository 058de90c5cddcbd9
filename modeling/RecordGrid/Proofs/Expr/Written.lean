import RecordGrid.Proofs.Expr.Completeness
import RecordGrid.Proofs.Expr.Lexeme

/-!
# Written expressions

An expression is written with parentheses around every operand of an operator,
a conditional or a call, and with its texts in quotes.  What is written is read
as the same expression, as long as it keeps to the levels and the primaries that
the reader allows.
-/

namespace RecordGrid

open Token (QuoteMark quoted Ends)

/-! ## The text of an expression -/

def BinaryOp.symbol : BinaryOp → Symbol
  | .equal => .equal
  | .notEqual => .notEqual
  | .less => .less
  | .greater => .greater
  | .lessEqual => .lessEqual
  | .greaterEqual => .greaterEqual
  | .add => .plus
  | .subtract => .minus
  | .multiply => .asterisk
  | .divide => .slash
  | .modulo => .percent

def UnaryOp.symbol : UnaryOp → Symbol
  | .negate => .minus
  | .plus => .plus
  | .not => .bang

def LogicalOp.symbol : LogicalOp → Symbol
  | .and => .and
  | .or => .or

/-- A number is written with the digits of its whole part. -/
def Literal.written (mark : QuoteMark) : Literal → List Char
  | .number x => Number.digits (Number.toInt x).toNat
  | .text s => quoted mark s.toList
  | .boolean true => "true".toList
  | .boolean false => "false".toList
  | .null => "null".toList

def Literal.token : Literal → Token
  | .number x => .number x
  | .text s => .text s
  | .boolean b => .boolean b
  | .null => .null

namespace Expr

def grouped (cs : List Char) : List Char := '(' :: (cs ++ [')'])

mutual

/-- The text of an expression, its texts between the given marks. -/
def written (mark : QuoteMark) : Expr → List Char
  | .literal value => value.written mark
  | .field id => id.toList
  | .binary op left right =>
      grouped (left.written mark) ++ (op.symbol.text.toList ++ grouped (right.written mark))
  | .unary op operand => op.symbol.text.toList ++ grouped (operand.written mark)
  | .logical op left right =>
      grouped (left.written mark) ++ (op.symbol.text.toList ++ grouped (right.written mark))
  | .conditional condition onTrue onFalse =>
      grouped (condition.written mark) ++
        (Symbol.question.text.toList ++ (grouped (onTrue.written mark) ++
          (Symbol.colon.text.toList ++ grouped (onFalse.written mark))))
  | .call function args => function.name.toList ++ grouped (writtenArgs mark args)

def writtenArgs (mark : QuoteMark) : List Expr → List Char
  | [] => []
  | arg :: rest => grouped (arg.written mark) ++ writtenFurther mark rest

/-- Further arguments, each behind a comma. -/
def writtenFurther (mark : QuoteMark) : List Expr → List Char
  | [] => []
  | arg :: rest => ',' :: (grouped (arg.written mark) ++ writtenFurther mark rest)

end

end Expr

/-! ## The expressions that can be written -/

def Literal.Writable : Literal → Prop
  | .number x => ∃ n ≤ 2 ^ 53, x = Float.ofNat n
  | _ => True

namespace Expr

mutual

/-- Numbers are whole and at most `2 ^ 53`, the id of a field is one word of the
language, and calls have as many arguments as their functions accept. -/
def Writable : Expr → Prop
  | .literal value => value.Writable
  | .field id => Token.tokens id.toList = [.identifier id]
  | .binary _ left right => left.Writable ∧ right.Writable
  | .unary _ operand => operand.Writable
  | .logical _ left right => left.Writable ∧ right.Writable
  | .conditional condition onTrue onFalse =>
      condition.Writable ∧ onTrue.Writable ∧ onFalse.Writable
  | .call function args => function.accepts args.length = true ∧ AllWritable args

def AllWritable : List Expr → Prop
  | [] => True
  | arg :: rest => arg.Writable ∧ AllWritable rest

end

mutual

/-- The levels that the text of an expression nests. -/
def writtenLevels : Expr → Nat
  | .literal _ => 1
  | .field _ => 1
  | .binary _ left right => max left.writtenLevels right.writtenLevels + 1
  | .unary _ operand => operand.writtenLevels + 1 + 1
  | .logical _ left right => max left.writtenLevels right.writtenLevels + 1
  | .conditional condition onTrue onFalse =>
      max condition.writtenLevels
        (max (onTrue.writtenLevels + 1) (onFalse.writtenLevels + 1)) + 1
  | .call _ args => levelsOfArgs args + 1

def levelsOfArgs : List Expr → Nat
  | [] => 0
  | arg :: rest => max (arg.writtenLevels + 1) (levelsOfArgs rest)

end

mutual

/-- The primaries of the text of an expression: every operand in parentheses is
one more. -/
def writtenPrimaries : Expr → Nat
  | .literal _ => 1
  | .field _ => 1
  | .binary _ left right => left.writtenPrimaries + 1 + (right.writtenPrimaries + 1)
  | .unary _ operand => operand.writtenPrimaries + 1
  | .logical _ left right => left.writtenPrimaries + 1 + (right.writtenPrimaries + 1)
  | .conditional condition onTrue onFalse =>
      condition.writtenPrimaries + 1 +
        (onTrue.writtenPrimaries + 1 + (onFalse.writtenPrimaries + 1))
  | .call _ args => primariesOfArgs args + 1

def primariesOfArgs : List Expr → Nat
  | [] => 0
  | arg :: rest => arg.writtenPrimaries + 1 + primariesOfArgs rest

end

/-! ## The tokens of the text -/

def groupedTokens (ts : List Token) : List Token :=
  .symbol .leftParen :: (ts ++ [.symbol .rightParen])

mutual

def spelled : Expr → List Token
  | .literal value => [value.token]
  | .field id => [.identifier id]
  | .binary op left right =>
      groupedTokens left.spelled ++ .symbol op.symbol :: groupedTokens right.spelled
  | .unary op operand => .symbol op.symbol :: groupedTokens operand.spelled
  | .logical op left right =>
      groupedTokens left.spelled ++ .symbol op.symbol :: groupedTokens right.spelled
  | .conditional condition onTrue onFalse =>
      groupedTokens condition.spelled ++ .symbol .question :: (groupedTokens onTrue.spelled ++
        .symbol .colon :: groupedTokens onFalse.spelled)
  | .call function args => .identifier function.name :: groupedTokens (spelledArgs args)

def spelledArgs : List Expr → List Token
  | [] => []
  | arg :: rest => groupedTokens arg.spelled ++ spelledFurther rest

def spelledFurther : List Expr → List Token
  | [] => []
  | arg :: rest => .symbol .comma :: (groupedTokens arg.spelled ++ spelledFurther rest)

end

end Expr

open Token (tokens)

/-- The characters are these tokens where nothing follows or a parenthesis. -/
def Lexes (cs : List Char) (ts : List Token) : Prop :=
  ∀ rest, Ends rest → tokens (cs ++ rest) = ts ++ tokens rest

theorem Literal.lexes_written
    {value : Literal} (hvalue : value.Writable) (mark : QuoteMark) :
    Lexes (value.written mark) [value.token] := by
  intro rest hrest
  cases value with
  | number x =>
      obtain ⟨n, hn, rfl⟩ := hvalue
      rw [written, Number.toInt_ofNat hn, Int.toNat_natCast, Token.tokens_digits n hrest]
      rfl
  | text s =>
      rw [written, Token.tokens_quoted, String.ofList_toList]
      rfl
  | boolean b =>
      cases b with
      | true => exact Token.tokens_word ⟨rfl, by decide, rfl, rfl, rfl, rfl⟩ hrest
      | false => exact Token.tokens_word ⟨rfl, by decide, rfl, rfl, rfl, rfl⟩ hrest
  | null => exact Token.tokens_word ⟨rfl, by decide, rfl, rfl, rfl, rfl⟩ hrest

theorem Function.lexes_name (f : Function) : Lexes f.name.toList [.identifier f.name] := by
  intro rest hrest
  cases f <;> exact Token.tokens_word ⟨rfl, by decide, rfl, rfl, rfl, rfl⟩ hrest

namespace Lexes

variable {cs later : List Char} {ts laterTokens : List Token}

theorem nil : Lexes [] [] := fun _ _ => rfl

/-- Whatever follows a group, the group ends at its parenthesis. -/
theorem tokens_grouped (h : Lexes cs ts) (rest : List Char) :
    tokens (Expr.grouped cs ++ rest) = Expr.groupedTokens ts ++ tokens rest := by
  simp only [Expr.grouped, Expr.groupedTokens, List.cons_append, List.append_assoc, List.nil_append,
    Token.tokens_leftParen, h _ (.rightParen rest), Token.tokens_rightParen]

theorem grouped (h : Lexes cs ts) : Lexes (Expr.grouped cs) (Expr.groupedTokens ts) :=
  fun rest _ => h.tokens_grouped rest

theorem followed (h : Lexes cs ts) (hlater : Lexes later laterTokens) :
    Lexes (Expr.grouped cs ++ later) (Expr.groupedTokens ts ++ laterTokens) := by
  intro rest hrest
  rw [List.append_assoc, List.append_assoc, h.tokens_grouped, hlater rest hrest]

theorem operator (s : Symbol) (h : Lexes ('(' :: cs) ts) :
    Lexes (s.text.toList ++ '(' :: cs) (.symbol s :: ts) := by
  intro rest hrest
  rw [List.append_assoc, List.cons_append, Token.tokens_symbol]
  exact congrArg (.symbol s :: ·) (h rest hrest)

theorem comma (h : Lexes cs ts) : Lexes (',' :: cs) (.symbol .comma :: ts) := by
  intro rest hrest
  rw [List.cons_append, Token.tokens_comma, h rest hrest, List.cons_append]

theorem call (f : Function) (h : Lexes ('(' :: cs) ts) :
    Lexes (f.name.toList ++ '(' :: cs) (.identifier f.name :: ts) := by
  intro rest hrest
  have hname := f.lexes_name ('(' :: (cs ++ rest)) (.leftParen _)
  rw [List.append_assoc, List.cons_append, hname]
  exact congrArg (.identifier f.name :: ·) (h rest hrest)

end Lexes

namespace Expr

theorem lexes_field {id : String} (hid : tokens id.toList = [.identifier id]) :
    Lexes id.toList [.identifier id] := by
  intro rest hrest
  obtain ⟨c, cs, hchars, hword, hofWord⟩ := Token.isWord_of_identifier hid
  have hread := Token.tokens_word hword hrest
  rwa [← hchars, String.ofList_toList, hofWord] at hread

mutual

theorem lexes_written (mark : QuoteMark) (e : Expr) (he : e.Writable) :
    Lexes (e.written mark) e.spelled := by
  match e, he with
  | .literal value, he => exact value.lexes_written he mark
  | .field id, he => exact lexes_field he
  | .binary op left right, he =>
      have hright := (lexes_written mark right he.2).grouped
      exact (lexes_written mark left he.1).followed (hright.operator op.symbol)
  | .unary op operand, he => exact (lexes_written mark operand he).grouped.operator op.symbol
  | .logical op left right, he =>
      have hright := (lexes_written mark right he.2).grouped
      exact (lexes_written mark left he.1).followed (hright.operator op.symbol)
  | .conditional condition onTrue onFalse, he =>
      have hfalse := (lexes_written mark onFalse he.2.2).grouped.operator .colon
      have hbranches := (lexes_written mark onTrue he.2.1).followed hfalse
      exact (lexes_written mark condition he.1).followed (hbranches.operator .question)
  | .call function args, he => exact (lexes_writtenArgs mark args he.2).grouped.call function

theorem lexes_writtenArgs (mark : QuoteMark) (args : List Expr) (hargs : AllWritable args) :
    Lexes (writtenArgs mark args) (spelledArgs args) := by
  match args, hargs with
  | [], _ => exact Lexes.nil
  | arg :: later, hargs =>
      exact (lexes_written mark arg hargs.1).followed (lexes_writtenFurther mark later hargs.2)

theorem lexes_writtenFurther (mark : QuoteMark) (args : List Expr) (hargs : AllWritable args) :
    Lexes (writtenFurther mark args) (spelledFurther args) := by
  match args, hargs with
  | [], _ => exact Lexes.nil
  | arg :: later, hargs =>
      have hlater := lexes_writtenFurther mark later hargs.2
      exact ((lexes_written mark arg hargs.1).followed hlater).comma

end

/-! ## Derivations of the tokens -/

/-- The tokens are derived as a phrase for the expression, with so many levels
and primaries. -/
def Derives (p : Phrase) (ts : List Token) (e : Expr) (levels primaries : Nat) : Prop :=
  ∃ d : Derivation p,
    d.tokens = ts ∧ d.expr = e ∧ d.nesting = levels ∧ d.primaries = primaries

namespace Derives

variable {ts ts₁ ts₂ ts₃ : List Token} {e e₁ e₂ e₃ : Expr} {n n₁ n₂ n₃ k k₁ k₂ k₃ : Nat}
  {s : Symbol}

theorem joined (rank : Rank) (h : Derives rank.operand ts e n k) :
    Derives (.joined rank) ts e n k := by
  obtain ⟨d, rfl, rfl, rfl, rfl⟩ := h
  exact ⟨.operand rank d, rfl, rfl, rfl, rfl⟩

theorem operand (rank : Rank) (h : Derives .unary ts e n k) : Derives rank.operand ts e n k := by
  have hmultiplicative := joined .multiplicative h
  have hadditive := joined .additive hmultiplicative
  have hrelational := joined .relational hadditive
  have hequality := joined .equality hrelational
  cases rank with
  | or => exact joined .and hequality
  | and => exact hequality
  | equality => exact hrelational
  | relational => exact hadditive
  | additive => exact hmultiplicative
  | multiplicative => exact h

theorem loosest {rank : Rank} (h : Derives (.joined rank) ts e n k) :
    Derives (.joined .or) ts e n k := by
  have ofEquality (h : Derives (.joined .equality) ts e n k) := joined .or (joined .and h)
  have ofAdditive (h : Derives (.joined .additive) ts e n k) :=
    ofEquality (joined .equality (joined .relational h))
  cases rank with
  | or => exact h
  | and => exact joined .or h
  | equality => exact ofEquality h
  | relational => exact ofEquality (joined .equality h)
  | additive => exact ofAdditive h
  | multiplicative => exact ofAdditive (joined .additive h)

theorem expression {rank : Rank} (h : Derives (.joined rank) ts e n k) :
    Derives .expression ts e (n + 1) k := by
  obtain ⟨d, rfl, rfl, rfl, rfl⟩ := h.loosest
  exact ⟨.expression (.condition d), rfl, rfl, rfl, rfl⟩

theorem ofUnary (h : Derives .unary ts e n k) : Derives .expression ts e (n + 1) k :=
  (joined .multiplicative h).expression

theorem bare (h : Derives .primary ts e n k) : Derives .unary ts e n k := by
  obtain ⟨d, rfl, rfl, rfl, rfl⟩ := h
  exact ⟨.bare d, rfl, rfl, rfl, rfl⟩

theorem grouped (h : Derives .expression ts e n k) :
    Derives .unary (groupedTokens ts) e n (k + 1) := by
  obtain ⟨d, rfl, rfl, rfl, rfl⟩ := h
  exact bare ⟨.group d, rfl, rfl, rfl, rfl⟩

/-- Parentheses around a whole expression are one level more. -/
theorem regrouped (h : Derives .expression ts e n k) :
    Derives .expression (groupedTokens ts) e (n + 1) (k + 1) :=
  h.grouped.ofUnary

theorem chain
    {rank : Rank} {join : Expr → Expr → Expr} (joins : rank.Joins s join)
    (hleft : Derives .expression ts₁ e₁ n₁ k₁) (hright : Derives .expression ts₂ e₂ n₂ k₂) :
    Derives .expression (groupedTokens ts₁ ++ .symbol s :: groupedTokens ts₂) (join e₁ e₂)
      (max n₁ n₂ + 1) (k₁ + 1 + (k₂ + 1)) := by
  obtain ⟨left, hleftTokens, rfl, rfl, hleftPrimaries⟩ := joined rank (hleft.grouped.operand rank)
  obtain ⟨right, hrightTokens, rfl, rfl, hrightPrimaries⟩ := hright.grouped.operand rank
  rw [← hleftTokens, ← hleftPrimaries, ← hrightTokens, ← hrightPrimaries]
  exact expression ⟨.chain rank left s join joins right, rfl, rfl, rfl, rfl⟩

theorem prefixed {op : UnaryOp} (prefixes : Prefixes s op) (h : Derives .expression ts e n k) :
    Derives .expression (.symbol s :: groupedTokens ts) (.unary op e) (n + 1 + 1) (k + 1) := by
  obtain ⟨d, hts, rfl, rfl, hk⟩ := h.grouped
  rw [← hts, ← hk]
  exact ofUnary ⟨.prefixed s op prefixes d, rfl, rfl, rfl, rfl⟩

theorem conditional
    (hcondition : Derives .expression ts₁ e₁ n₁ k₁) (htrue : Derives .expression ts₂ e₂ n₂ k₂)
    (hfalse : Derives .expression ts₃ e₃ n₃ k₃) :
    Derives .expression
      (groupedTokens ts₁ ++ .symbol .question ::
        (groupedTokens ts₂ ++ .symbol .colon :: groupedTokens ts₃))
      (.conditional e₁ e₂ e₃) (max n₁ (max (n₂ + 1) (n₃ + 1)) + 1)
      (k₁ + 1 + (k₂ + 1 + (k₃ + 1))) := by
  obtain ⟨condition, h₁, rfl, rfl, hk₁⟩ := joined .or (hcondition.grouped.operand .or)
  obtain ⟨onTrue, h₂, rfl, hn₂, hk₂⟩ := htrue.regrouped
  obtain ⟨onFalse, h₃, rfl, hn₃, hk₃⟩ := hfalse.regrouped
  rw [← h₁, ← hk₁, ← h₂, ← hn₂, ← hk₂, ← h₃, ← hn₃, ← hk₃]
  exact ⟨.expression (.conditional condition onTrue onFalse), rfl, rfl, rfl, rfl⟩

end Derives

theorem exists_joins_binary (op : BinaryOp) : ∃ rank : Rank, rank.Joins op.symbol (.binary op) := by
  cases op with
  | equal => exact ⟨_, .equal⟩
  | notEqual => exact ⟨_, .notEqual⟩
  | less => exact ⟨_, .less⟩
  | greater => exact ⟨_, .greater⟩
  | lessEqual => exact ⟨_, .lessEqual⟩
  | greaterEqual => exact ⟨_, .greaterEqual⟩
  | add => exact ⟨_, .add⟩
  | subtract => exact ⟨_, .subtract⟩
  | multiply => exact ⟨_, .multiply⟩
  | divide => exact ⟨_, .divide⟩
  | modulo => exact ⟨_, .modulo⟩

theorem exists_joins_logical (op : LogicalOp) :
    ∃ rank : Rank, rank.Joins op.symbol (.logical op) := by
  cases op with
  | and => exact ⟨_, .and⟩
  | or => exact ⟨_, .or⟩

theorem prefixes_symbol (op : UnaryOp) : Prefixes op.symbol op := by
  cases op with
  | negate => exact .negate
  | plus => exact .plus
  | not => exact .not

theorem spells_token (value : Literal) : Spells value.token value := by
  cases value with
  | number x => exact .number x
  | text s => exact .text s
  | boolean b => exact .boolean b
  | null => exact .null

theorem toAsciiUpper_name (f : Function) : f.name = Text.toAsciiUpper f.name := by
  cases f <;> decide

mutual

theorem derives_spelled (e : Expr) (he : e.Writable) :
    Derives .expression e.spelled e e.writtenLevels e.writtenPrimaries := by
  match e, he with
  | .literal value, _ =>
      exact .ofUnary (.bare ⟨.literal value.token value (spells_token value), rfl, rfl, rfl, rfl⟩)
  | .field id, _ => exact .ofUnary (.bare ⟨.field id, rfl, rfl, rfl, rfl⟩)
  | .binary op left right, he =>
      obtain ⟨rank, joins⟩ := exists_joins_binary op
      exact .chain joins (derives_spelled left he.1) (derives_spelled right he.2)
  | .unary op operand, he => exact .prefixed (prefixes_symbol op) (derives_spelled operand he)
  | .logical op left right, he =>
      obtain ⟨rank, joins⟩ := exists_joins_logical op
      exact .chain joins (derives_spelled left he.1) (derives_spelled right he.2)
  | .conditional condition onTrue onFalse, he =>
      exact .conditional (derives_spelled condition he.1) (derives_spelled onTrue he.2.1)
        (derives_spelled onFalse he.2.2)
  | .call function args, he =>
      obtain ⟨arguments, htokens, hexprs, hnesting, hprimaries⟩ := arguments_spelled args he.2
      refine .ofUnary (.bare ⟨.call function.name function (toAsciiUpper_name function) args.length
        arguments he.1, ?_, ?_, hnesting, ?_⟩)
      · rw [Derivation.tokens, htokens, spelled, groupedTokens]
      · rw [Derivation.expr, hexprs]
      · rw [Derivation.primaries, hprimaries, writtenPrimaries]

theorem arguments_spelled (args : List Expr) (hargs : AllWritable args) :
    ∃ arguments : Arguments args.length,
      arguments.tokens = spelledArgs args ∧ arguments.exprs = args ∧
        arguments.nesting = levelsOfArgs args ∧ arguments.primaries = primariesOfArgs args := by
  match args, hargs with
  | [], _ => exact ⟨.none, rfl, rfl, rfl, rfl⟩
  | arg :: rest, hargs =>
      obtain ⟨first, h₁, h₂, h₃, h₄⟩ := (derives_spelled arg hargs.1).regrouped
      obtain ⟨further, h₁', h₂', h₃', h₄'⟩ := further_spelled rest hargs.2
      refine ⟨.some rest.length first further, ?_, ?_, ?_, ?_⟩
      · rw [Arguments.tokens, h₁, h₁', spelledArgs]
      · rw [Arguments.exprs, h₂, h₂']
      · rw [Arguments.nesting, h₃, h₃', levelsOfArgs]
      · rw [Arguments.primaries, h₄, h₄', primariesOfArgs]

theorem further_spelled (args : List Expr) (hargs : AllWritable args) :
    ∃ further : FurtherArguments args.length,
      further.tokens = spelledFurther args ∧ further.exprs = args ∧
        further.nesting = levelsOfArgs args ∧ further.primaries = primariesOfArgs args := by
  match args, hargs with
  | [], _ => exact ⟨.nil, rfl, rfl, rfl, rfl⟩
  | arg :: rest, hargs =>
      obtain ⟨next, h₁, h₂, h₃, h₄⟩ := (derives_spelled arg hargs.1).regrouped
      obtain ⟨further, h₁', h₂', h₃', h₄'⟩ := further_spelled rest hargs.2
      refine ⟨.cons rest.length next further, ?_, ?_, ?_, ?_⟩
      · rw [FurtherArguments.tokens, h₁, h₁', spelledFurther]
      · rw [FurtherArguments.exprs, h₂, h₂']
      · rw [FurtherArguments.nesting, h₃, h₃', levelsOfArgs]
      · rw [FurtherArguments.primaries, h₄, h₄', primariesOfArgs]

end

/-! ## Reading the text -/

theorem Derivation.parse_eq_ok
    {text : String} (d : Derivation .expression) (htokens : d.tokens = Token.tokens text.toList)
    (hnesting : d.nesting ≤ 64) (hprimaries : d.primaries ≤ 256) : parse text = .ok d.expr := by
  have hread := d.readBy maxDepth hnesting [] (256 - d.primaries) (stops_nil _)
  rw [List.append_nil, htokens, Nat.add_sub_cancel' hprimaries] at hread
  exact ofTokens_eq_ok_iff.2 ⟨256 - d.primaries, hread⟩

/-- What is written of an expression is derived as that expression, and it is
read as that expression wherever it nests no more than 64 levels and has no more
than 256 primaries. -/
theorem parse_written
    {e : Expr} (he : e.Writable) (mark : QuoteMark) :
    (∃ d : Derivation .expression,
      d.tokens = tokens (e.written mark) ∧ d.expr = e ∧
        d.nesting = e.writtenLevels ∧ d.primaries = e.writtenPrimaries) ∧
      (e.writtenLevels ≤ 64 → e.writtenPrimaries ≤ 256 →
        parse (String.ofList (e.written mark)) = .ok e) := by
  have htokens : tokens (e.written mark) = e.spelled := by
    have hread := lexes_written mark e he [] .nothing
    rwa [List.append_nil, Token.tokens_nil, List.append_nil] at hread
  obtain ⟨d, hspelled, rfl, hnesting, hprimaries⟩ := derives_spelled e he
  rw [← htokens] at hspelled
  refine ⟨⟨d, hspelled, rfl, hnesting, hprimaries⟩, ?_⟩
  intro hlevels hoperands
  rw [← hnesting] at hlevels
  rw [← hprimaries] at hoperands
  refine d.parse_eq_ok ?_ hlevels hoperands
  rw [hspelled, String.toList_ofList]

/-- A formula with operators of three levels, a call, the greatest number that
can be written, and a text with marks, a backslash and a letter beyond ASCII. -/
def discountFormula : Expr :=
  .conditional
    (.logical .and (.unary .not (.field "paid"))
      (.binary .less (.field "qty") (.literal (.number (Float.ofNat (2 ^ 53))))))
    (.call .round [.binary .divide (.field "net") (.literal (.number (Float.ofNat 3))),
      .literal (.number (Float.ofNat 2))])
    (.literal (.text "\"due\" in C:\\büro"))

def discountText : String :=
  "((!(paid))&&((qty)<(9007199254740992)))?(ROUND(((net)/(3)),(2))):(\"\\\"due\\\" in C:\\\\büro\")"

theorem writable_discountFormula : discountFormula.Writable := by
  have hid : ∀ id ∈ ["paid", "qty", "net"], Token.tokens id.toList = [.identifier id] := by
    decide +kernel
  have hnumber : ∀ n ≤ 2 ^ 53, (Literal.number (Float.ofNat n)).Writable :=
    fun n hn => ⟨n, hn, rfl⟩
  have hround : Function.round.accepts 2 = true := by decide
  refine ⟨⟨?paid, ?qty, ?most⟩, ⟨hround, ⟨?net, ?three⟩, ?two, trivial⟩, trivial⟩
  case paid => exact hid "paid" (by decide)
  case qty => exact hid "qty" (by decide)
  case most => exact hnumber _ (Nat.le_refl _)
  case net => exact hid "net" (by decide)
  case three => exact hnumber 3 (by decide)
  case two => exact hnumber 2 (by decide)

theorem written_discountFormula :
    String.ofList (discountFormula.written .double) = discountText := by
  have hmost := Number.toInt_ofNat (Nat.le_refl (2 ^ 53))
  have hthree := Number.toInt_ofNat (show 3 ≤ 2 ^ 53 by decide)
  have htwo := Number.toInt_ofNat (show 2 ≤ 2 ^ 53 by decide)
  simp only [discountFormula, written, writtenArgs, writtenFurther, Literal.written]
  rw [hmost, hthree, htwo]
  decide +kernel

theorem parse_written_discountText :
    discountFormula.Writable ∧ discountFormula.writtenLevels ≤ 64 ∧
      discountFormula.writtenPrimaries ≤ 256 ∧ parse discountText = .ok discountFormula := by
  have hlevels : discountFormula.writtenLevels ≤ 64 := by decide
  have hprimaries : discountFormula.writtenPrimaries ≤ 256 := by decide
  refine ⟨writable_discountFormula, hlevels, hprimaries, ?_⟩
  rw [← written_discountFormula]
  exact (parse_written writable_discountFormula .double).2 hlevels hprimaries

end Expr

end RecordGrid
