import ScriptedTemplate.Yaml.Schema

/-
  Writing scalars

  A string is written plain where it reads back as the same string and does not
  look like a number with needless zeros. One with line feeds is written as a
  literal scalar. Otherwise it gets single quotes, and double quotes when there
  is a character that has to be escaped or a blank next to a break. A line is
  never folded.
-/

namespace ScriptedTemplate

namespace Yaml

namespace Printer

/-- The columns by which lines of a scalar are indented. -/
def margin : Text := [' ', ' ']

def isPrintable (c : Char) : Bool :=
  let n := c.toNat
  n == 0x0A || (0x20 ≤ n && n ≤ 0x7E) || (0xA0 ≤ n && n ≤ 0xFFFD && n != 0xFEFF) || 0x10000 ≤ n

/-- Whether a text may be taken for something else than a string. -/
def isAmbiguous (t : Text) : Bool :=
  match plainSense t with
  | .string _ => hasLeadingZero t
  | _ => true

/-- Whether a character in a text, with the ones before and after it, has a
meaning in a block collection. -/
def isIndicator (before : Option Char) (c : Char) (next : Option Char) : Bool :=
  (c == ':' && isSeparator next) || (c == '#' && isSeparator before) ||
    (before.isNone &&
      ("#,[]\x7b\x7d&*!|>'\"%@\x60".toList.contains c
        || ((c == '?' || c == '-') && isSeparator next)))

/-- Whether a text has a character with a meaning; `before` is the character
before it. -/
def hasIndicator (before : Option Char) : Text → Bool
  | [] => false
  | c :: t => isIndicator before c t.head? || hasIndicator (some c) t

/-- Whether a text begins like the bounds of a document. -/
def looksLikeRule (t : Text) : Bool := t.take 3 == "---".toList || t.take 3 == "...".toList

/-- Whether a character that passes one test is followed by one that passes
another. -/
def hasPair (p q : Char → Bool) (t : Text) : Bool := (t.zip t.tail).any fun (c, d) => p c && q d

def isSpace (c : Char) : Bool := c == ' '

/-- Whether a text has blanks or breaks at one of its ends. -/
def hasLooseEnd (t : Text) : Bool :=
  let loose (c : Char) : Bool := isSpace c || isBreak c
  t.head?.any loose || t.getLast?.any loose

def needsEscapes (t : Text) : Bool := t.any (!isPrintable ·) || hasPair isSpace isBreak t

/-- Whether a text can be written plain. -/
def canBePlain (t : Text) : Bool :=
  !needsEscapes t && !hasLooseEnd t && !t.any isBreak && !looksLikeRule t && !hasIndicator none t

/-- Whether a text can be written between single quotes. -/
def canBeSingle (t : Text) : Bool := !needsEscapes t && !hasPair isBreak isSpace t

/-- Whether a text can be written as a literal scalar. -/
def canBeLiteral (t : Text) : Bool := !needsEscapes t && !(t.getLast?.any isSpace)

/-- The style in which a string is written. -/
def style (t : Text) : Style :=
  if t.contains '\n' then if canBeLiteral t then .literal else .doubleQuoted
  else if !isAmbiguous t && canBePlain t then .plain
  else if canBeSingle t then .singleQuoted
  else .doubleQuoted

def letters : List (Nat × Char) :=
  [(0x00, '0'), (0x07, 'a'), (0x08, 'b'), (0x09, 't'), (0x0A, 'n'), (0x0B, 'v'), (0x0C, 'f'),
    (0x0D, 'r'), (0x1B, 'e'), (0x22, '"'), (0x5C, '\\'), (0x85, 'N'), (0x2028, 'L'), (0x2029, 'P')]

/-- A code point in hexadecimal, filled up to a width. -/
def hex (width n : Nat) : Text :=
  let digits := (Nat.toDigits 16 n).map Char.toUpper
  List.replicate (width - digits.length) '0' ++ digits

def escaped (c : Char) : Text :=
  let n := c.toNat
  if isPrintable c && !isBreak c && c != '"' && c != '\\' then [c]
  else
    match letters.find? (·.1 == n) with
    | some (_, x) => ['\\', x]
    | none =>
      if n ≤ 0xFF then '\\' :: 'x' :: hex 2 n
      else if n ≤ 0xFFFF then '\\' :: 'u' :: hex 4 n
      else '\\' :: 'U' :: hex 8 n

/-- A text between single quotes, after a break or not. -/
def singleFrom (afterBreak : Bool) : Text → Text
  | [] => if afterBreak then margin else []
  | c :: t =>
    if isBreak c then c :: singleFrom true t
    else
      (if afterBreak then margin else []) ++ (if c == '\'' then ['\'', c] else [c])
        ++ singleFrom false t

/-- The lines of a literal scalar, each indented unless it is empty. -/
def linesFrom (afterBreak : Bool) : Text → Text
  | [] => []
  | c :: t =>
    if isBreak c then c :: linesFrom true t
    else (if afterBreak then margin else []) ++ c :: linesFrom false t

/-- The header of a literal scalar: its indentation when the text begins with
blanks or breaks, and what becomes of the breaks at its end. -/
def header (t : Text) : Text :=
  let last := t.getLast?
  let before := t.dropLast.getLast?
  (if t.head?.any fun c => isSpace c || isBreak c then ['2'] else []) ++
    if !(last.any isBreak) then ['-']
    else if before.all isBreak then ['+']
    else []

/-- A string as the value of an entry. -/
def scalar (t : Text) : Text :=
  match style t with
  | .plain => t
  | .singleQuoted => '\'' :: singleFrom false t ++ ['\'']
  | .doubleQuoted => '"' :: t.flatMap escaped ++ ['"']
  | _ => '|' :: header t ++ ['\n'] ++ linesFrom true t

/-- The lines of an entry; a scalar with a break at its end needs no other. -/
def entry (key : String) (value : Text) : Text :=
  let line := key.toList ++ [':', ' '] ++ value
  if line.getLast?.any isBreak then line else line ++ ['\n']

end Printer

end Yaml

end ScriptedTemplate
