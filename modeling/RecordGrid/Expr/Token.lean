import RecordGrid.Number.Decimal

/-!
# Tokens

The words of expression text.  `===` and `!==` are spellings of `==` and
`!=`; a character that begins no word is a token of its own, so that reading
never fails before the grammar has a say.
-/

namespace RecordGrid

inductive Symbol where
  | plus
  | minus
  | asterisk
  | slash
  | percent
  | equal
  | notEqual
  | less
  | greater
  | lessEqual
  | greaterEqual
  | bang
  | and
  | or
  | question
  | colon
  | leftParen
  | rightParen
  | comma
deriving DecidableEq, Repr

inductive Token where
  | number (x : Float)
  | text (s : String)
  | boolean (b : Bool)
  | null
  | identifier (name : String)
  | symbol (s : Symbol)
  | illegal (c : Char)
deriving DecidableEq

namespace Symbol

def text : Symbol → String
  | .plus => "+"
  | .minus => "-"
  | .asterisk => "*"
  | .slash => "/"
  | .percent => "%"
  | .equal => "=="
  | .notEqual => "!="
  | .less => "<"
  | .greater => ">"
  | .lessEqual => "<="
  | .greaterEqual => ">="
  | .bang => "!"
  | .and => "&&"
  | .or => "||"
  | .question => "?"
  | .colon => ":"
  | .leftParen => "("
  | .rightParen => ")"
  | .comma => ","

end Symbol

namespace Token

/-- A token as messages show it. -/
def shown : Token → String
  | .number x => Number.Layout.plain.text x
  | .text s => "'" ++ s ++ "'"
  | .boolean true => "true"
  | .boolean false => "false"
  | .null => "null"
  | .identifier name => name
  | .symbol s => s.text
  | .illegal c => "ILLEGAL(" ++ String.singleton c ++ ")"

/-- The first token of a list as messages show it, or the end of the text. -/
def shownFirst : Option Token → String
  | some t => t.shown
  | none => "EOF"

end Token

end RecordGrid
