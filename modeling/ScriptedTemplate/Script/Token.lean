import ScriptedTemplate.Value.Basic

/-
  Tokens of a program

  A program alternates between literal text and two sorts of blocks: statements
  and expressions to be shown. Inside a block stand names, literals and the
  symbols of the expression language.
-/

namespace ScriptedTemplate

/-- A symbol of the expression language. -/
inductive Mark where
  | plus
  | minus
  | times
  | divide
  | floorDivide
  | power
  | modulo
  | dot
  | comma
  | colon
  | tilde
  | assign
  | pipe
  | equal
  | unequal
  | less
  | lessEqual
  | greater
  | greaterEqual
  | bracketOpen
  | bracketClose
  | parenOpen
  | parenClose
  | braceOpen
  | braceClose
  deriving DecidableEq, Repr

def Mark.text : Mark → String
  | plus => "+"
  | minus => "-"
  | times => "*"
  | divide => "/"
  | floorDivide => "//"
  | power => "**"
  | modulo => "%"
  | dot => "."
  | comma => ","
  | colon => ":"
  | tilde => "~"
  | assign => "="
  | pipe => "|"
  | equal => "=="
  | unequal => "!="
  | less => "<"
  | lessEqual => "<="
  | greater => ">"
  | greaterEqual => ">="
  | bracketOpen => "["
  | bracketClose => "]"
  | parenOpen => "("
  | parenClose => ")"
  | braceOpen => "\x7b"
  | braceClose => "\x7d"

/-- A token. -/
inductive Token where
  | text (t : Text)
  | showStart
  | showEnd
  | blockStart
  | blockEnd
  | name (s : String)
  /-- A string, given by what stands between its quotes, escapes undone. -/
  | string (s : String)
  /-- A string with an escape that means nothing. -/
  | badString
  | int (n : Nat)
  | float (x : Float)
  | mark (m : Mark)

def Token.describe : Token → String
  | text _ => "template-data"
  | showStart => "start of variable block"
  | showEnd => "end of variable block"
  | blockStart => "start of block"
  | blockEnd => "end of block"
  | name _ => "identifier"
  | string _ => "string"
  | badString => "string"
  | int _ => "integer"
  | float _ => "float"
  | mark m => "`" ++ m.text ++ "`"

def Token.isName (s : String) : Token → Bool
  | name t => t == s
  | _ => false

def Token.isMark (m : Mark) : Token → Bool
  | mark k => k == m
  | _ => false

end ScriptedTemplate
