import ScriptedTemplate.Text.Blank

/-
  Slices — the classified pieces of a template

  A slice is a piece of the template together with what it is: literal text, a
  statement, or an expression to be written out. Its payload is ready for the
  program: text is escaped for a double-quoted literal, code stands on one line,
  an output expression is kept as it is.

  `unescape` undoes `escape` up to line ends: reading back the payload of a text
  gives the text with every CR LF turned into LF.
-/

namespace ScriptedTemplate

/-- The name by which a program calls its output sink. -/
def sinkName : String := "__out__"

/-- A classified piece of a template. -/
inductive Slice where
  /-- Literal text, escaped for a double-quoted literal. -/
  | text (payload : Text)
  /-- A statement, on one line. -/
  | code (payload : Text)
  /-- An expression whose value is written out. -/
  | output (payload : Text)
  deriving DecidableEq, Repr

namespace Slice

/-- Escape a text for a double-quoted literal: a backslash and a quote get a
backslash in front, a line feed becomes backslash-n, and a carriage return
directly before a line feed is dropped. -/
def escape : Text → Text
  | [] => []
  | '\\' :: t => '\\' :: '\\' :: escape t
  | '"' :: t => '\\' :: '"' :: escape t
  | '\n' :: t => '\\' :: 'n' :: escape t
  | '\r' :: '\n' :: t => escape ('\n' :: t)
  | c :: t => c :: escape t

/-- Read the inside of a literal back: a backslash takes the next character with
it, backslash-n stands for a line feed and any other pair for its second
character. -/
def unescape : Text → Text
  | [] => []
  | '\\' :: 'n' :: t => '\n' :: unescape t
  | '\\' :: c :: t => c :: unescape t
  | c :: t => c :: unescape t

/-- Every CR LF turned into LF. -/
def normalize : Text → Text
  | [] => []
  | '\r' :: '\n' :: t => normalize ('\n' :: t)
  | c :: t => c :: normalize t

/-- Put a statement on one line: each line break, LF or CR LF, becomes a
space. -/
def flatten : Text → Text
  | [] => []
  | '\r' :: '\n' :: t => ' ' :: flatten t
  | '\n' :: t => ' ' :: flatten t
  | c :: t => c :: flatten t

/-- The slice of a piece of literal text. -/
def ofText (raw : Text) : Slice := text (escape raw)

def ofCode (raw : Text) : Slice := code (flatten raw)

def ofOutput (raw : Text) : Slice := output raw

/-- Whether the slice contributes anything: a text or an output that is not
empty, code that is not blank. -/
def isValid : Slice → Bool
  | text p => !p.isEmpty
  | code p => !p.trim.isEmpty
  | output p => !p.isEmpty

def isCode : Slice → Bool
  | code _ => true
  | _ => false

/-- Drop the spaces a payload starts with together with the line end directly
after them; without such a line end, keep the payload. -/
def dropIndent (p : Text) : Text :=
  match p.dropWhile (· == ' ') with
  | '\\' :: 'n' :: rest => rest
  | _ => p

/-- Take the leading spaces and the first line end from a text slice that starts
with them. -/
def trimLeading : Slice → Slice
  | text p => text (dropIndent p)
  | s => s

/-- The slice as one fragment of a program, line end included. -/
def render : Slice → Text
  | text p => "\x7b\x7b- __out__(\"".toList ++ p ++ "\") -\x7d\x7d\n".toList
  | code p => "\x7b%- ".toList ++ p ++ " -%\x7d\n".toList
  | output p => "\x7b\x7b- __out__(".toList ++ p ++ ") -\x7d\x7d\n".toList

end Slice

end ScriptedTemplate
