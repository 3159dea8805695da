import ScriptedTemplate.Text.Basic

/-
  Marks and cursors — where one is in a YAML text

  A mark is a place in a text, a cursor a mark together with what is left of the
  text from there. Lines end at a line feed, a carriage return, both in that
  order, or one of three other break characters; the end of the text counts as a
  separator, like a blank and like a break.
-/

namespace ScriptedTemplate

namespace Yaml

/-- A place in a text: how many characters precede it, in which line it lies and
how many characters precede it in that line, all counted from zero. -/
structure Mark where
  index : Nat
  line : Nat
  column : Nat
  deriving DecidableEq, Repr

namespace Mark

def start : Mark := ⟨0, 0, 0⟩

/-- The place `n` characters further in the same line. -/
def skip (n : Nat) (m : Mark) : Mark := ⟨m.index + n, m.line, m.column + n⟩

/-- The place after the next character of the same line. -/
def next (m : Mark) : Mark := m.skip 1

/-- The place after a line break of `n` characters. -/
def nextLine (n : Nat) (m : Mark) : Mark := ⟨m.index + n, m.line + 1, 0⟩

/-- The place as messages give it, counted from one. -/
def text (m : Mark) : String :=
  "line " ++ toString (m.line + 1) ++ " column " ++ toString (m.column + 1)

/-- The place at the end of a message; the beginning of the text is not worth
telling. -/
def suffix (m : Mark) : String :=
  if m.line = 0 && m.column = 0 then "" else " at " ++ m.text

end Mark

/-- Whether a character separates within a line. -/
def isBlank (c : Char) : Bool := c == ' ' || c == '\t'

/-- Whether a break character stays itself where breaks are read. -/
def isLastingBreak (c : Char) : Bool := c.toNat == 0x2028 || c.toNat == 0x2029

def isBreak (c : Char) : Bool :=
  c == '\n' || c == '\r' || c.toNat == 0x85 || isLastingBreak c

/-- Whether a word ends before this character, or before the end of the text. -/
def isSeparator (c : Option Char) : Bool := c.all fun c => isBlank c || isBreak c

/-- Whether a character can stand in the names of anchors, handles and
directives. -/
def isNameChar (c : Char) : Bool := c.isAlphanum || c == '_' || c == '-'

/-- Whether a character is a byte order mark. -/
def isByteOrderMark (c : Char) : Bool := c.toNat == 0xFEFF

/-- Whether a YAML text can contain a character. -/
def isAllowed (c : Char) : Bool :=
  let n := c.toNat
  n == 0x09 || n == 0x0A || n == 0x0D || (0x20 ≤ n && n ≤ 0x7E) || n == 0x85
    || (0xA0 ≤ n && n ≤ 0xFFFD) || 0x10000 ≤ n

/-- What is left of a text, and where that begins. -/
structure Cursor where
  rest : Text
  mark : Mark
  deriving DecidableEq, Repr

namespace Cursor

def peek (c : Cursor) : Option Char := c.rest.head?

def peekAt (n : Nat) (c : Cursor) : Option Char := c.rest[n]?

/-- Go `n` characters further in the same line. -/
def skip (n : Nat) (c : Cursor) : Cursor := ⟨c.rest.drop n, c.mark.skip n⟩

/-- The next characters that all pass a test no break passes, and the cursor
after them. -/
def takeWhile (p : Char → Bool) (c : Cursor) : Text × Cursor :=
  let word := c.rest.takeWhile p
  (word, c.skip word.length)

/-- The cursor after the next characters that pass a test. -/
def skipWhile (p : Char → Bool) (c : Cursor) : Cursor := (c.takeWhile p).2

/-- The line break that comes next, as it is read, and the cursor after it. -/
def break? (c : Cursor) : Option (Char × Cursor) :=
  match c.rest with
  | '\r' :: '\n' :: rest => some ('\n', ⟨rest, c.mark.nextLine 2⟩)
  | b :: rest =>
    if isBreak b then some (if isLastingBreak b then b else '\n', ⟨rest, c.mark.nextLine 1⟩)
    else none
  | [] => none

/-- The cursor after the line break that comes next, if one does. -/
def skipBreak (c : Cursor) : Cursor := (c.break?.map (·.2)).getD c

/-- Whether three equal characters stand alone at the beginning of a line. -/
def atRule (x : Char) (c : Cursor) : Bool :=
  c.mark.column == 0 && c.rest.take 3 == [x, x, x] && isSeparator (c.peekAt 3)

/-- Whether a document begins or ends here. -/
def atDocumentRule (c : Cursor) : Bool := c.atRule '-' || c.atRule '.'

/-- The cursor after the rest of the line's blanks and comment. -/
def skipComment (c : Cursor) : Cursor :=
  let c := c.skipWhile isBlank
  if c.peek == some '#' then c.skipWhile (!isBreak ·) else c

end Cursor

end Yaml

end ScriptedTemplate
