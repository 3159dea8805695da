import ScriptedTemplate.Script.Fault
import ScriptedTemplate.Script.Token
import ScriptedTemplate.Decimal.Reader

/-
  Literals — strings and numbers as a program writes them

  A string ends at the first delimiter that no backslash precedes. A backslash
  stands for itself unless it begins one of the known escapes; a code point
  beyond 16 bits is written as two surrogate escapes.

  A number is decimal, or begins with 0b, 0o or 0x. Underscores may stand
  between digits and mean nothing. A point or an exponent makes it a float; a
  point before a name does not belong to the number.
-/

namespace ScriptedTemplate

namespace Literal

/-- What stands before the closing delimiter of a string, escapes kept, and what
follows it. -/
def closeString (delimiter : Char) : Text → Option (Text × Text)
  | [] => none
  | c :: t =>
    if c = delimiter then some ([], t)
    else if c = '\\' then
      match t with
      | [] => none
      | d :: t => (closeString delimiter t).map fun found => ('\\' :: d :: found.1, found.2)
    else (closeString delimiter t).map fun found => (c :: found.1, found.2)

/-- The code of a hexadecimal escape; a plus sign may come first. -/
def hexCode? (t : Text) : Option Nat :=
  match t with
  | [] => none
  | '+' :: [] => none
  | '+' :: rest => Text.digits? 16 rest
  | _ => Text.digits? 16 t

def shortEscape? : Char → Option Char
  | '"' => some '"'
  | '\\' => some '\\'
  | '/' => some '/'
  | '\'' => some '\''
  | 'b' => some (Char.ofNat 8)
  | 'f' => some (Char.ofNat 12)
  | 'n' => some '\n'
  | 'r' => some '\r'
  | 't' => some '\t'
  | _ => none

/-- Whether a number is half of a surrogate pair. -/
def isSurrogate (n : Nat) : Bool := 0xD800 ≤ n && n ≤ 0xDFFF

def paired? (high low : Nat) : Option Char :=
  if high ≤ 0xDBFF && 0xDC00 ≤ low then
    some (Char.ofNat (0x10000 + (high - 0xD800) * 0x400 + (low - 0xDC00)))
  else none

/-- Up to `most` octal digits, and what follows them. -/
def octalRun : Nat → Text → Text × Text
  | most + 1, c :: t =>
    if '0' ≤ c && c ≤ '7' then
      let (more, rest) := octalRun most t
      (c :: more, rest)
    else ([], c :: t)
  | _, t => ([], t)

/-- Undo the escapes of a string; `half` is a surrogate that waits for its other
half. A step uses up a character or more, so as many steps as there are
characters are enough. -/
def unescapeFrom : Nat → Option Nat → Text → Option Text
  | 0, _, _ => some []
  | _ + 1, half, [] => if half.isSome then none else some []
  | fuel + 1, half, '\\' :: 'u' :: t =>
    match hexCode? (t.take 4), half with
    | none, _ => none
    | some n, none =>
      if t.length < 4 then none
      else if isSurrogate n then unescapeFrom fuel (some n) (t.drop 4)
      else (unescapeFrom fuel none (t.drop 4)).map (Char.ofNat n :: ·)
    | some n, some high =>
      if t.length < 4 || !isSurrogate n then none
      else
        match paired? high n with
        | none => none
        | some c => (unescapeFrom fuel none (t.drop 4)).map (c :: ·)
  | _ + 1, some _, _ :: _ => none
  | _ + 1, none, '\\' :: [] => none
  | fuel + 1, none, '\\' :: c :: t =>
    match shortEscape? c with
    | some d => (unescapeFrom fuel none t).map (d :: ·)
    | none =>
      if c = 'x' then
        match hexCode? (t.take 2) with
        | none => none
        | some n =>
          if t.length < 2 then none
          else (unescapeFrom fuel none (t.drop 2)).map (Char.ofNat n :: ·)
      else if '0' ≤ c && c ≤ '7' then
        let (more, rest) := octalRun 2 t
        match Text.digits? 8 (c :: more) with
        | none => none
        | some n =>
          if 255 < n then none else (unescapeFrom fuel none rest).map (Char.ofNat n :: ·)
      else (unescapeFrom fuel none t).map fun rest => '\\' :: c :: rest
  | fuel + 1, none, c :: t => (unescapeFrom fuel none t).map (c :: ·)

/-- The string that stands between two delimiters, if its escapes mean
something. -/
def unescape? (t : Text) : Option Text := unescapeFrom (t.length + 1) none t

def stringToken (inside : Text) : Token :=
  match unescape? inside with
  | some s => .string (String.ofList s)
  | none => .badString

/-- How far a number has been read. -/
inductive Stage where
  | whole
  | fraction
  | exponent
  | power
  /-- In the digits of a number with a base mark. -/
  | based
  deriving DecidableEq, Repr

/-- Whether a name may begin with a character. -/
def isNameStart (c : Char) : Bool := c.isAlpha || c == '_'

/-- The stage after one more character, if that belongs to the number; `next` is
what stands after the character. -/
def Stage.after (base : Nat) (next : Option Char) : Stage → Char → Option Stage
  | .whole, '.' => if next.any isNameStart then none else some .fraction
  | s, c =>
    if (c = 'e' || c = 'E') && (s = .whole || s = .fraction) then some .exponent
    else if (c = '+' || c = '-') && s = .exponent then some .power
    else if c.isDigit then some (if s = .exponent then .power else s)
    else if c = '_' then some s
    else if s = .based && base = 16 && (Text.digit? c).any (· < 16) then some s
    else none

/-- The characters of a number from a stage on, the stage they end in, and what
follows them. -/
def takeNumber (base : Nat) (s : Stage) : Text → Text × Stage × Text
  | [] => ([], s, [])
  | c :: t =>
    match s.after base t.head? c with
    | none => ([], s, c :: t)
    | some next =>
      let (more, last, rest) := takeNumber base next t
      (c :: more, last, rest)

/-- The largest whole number that can be written. -/
def largest : Nat := twoTo 128 - 1

/-- The token of the characters of a number. -/
def numberToken (base : Nat) (last : Stage) (digits : Text) : Except GrammarFault Token :=
  if digits.contains '_' && digits.getLast? = some '_' then .error .trailingUnderscore
  else
    let plain := digits.filter (· ≠ '_')
    if last = .whole || last = .based then
      match plain, Text.digits? base plain with
      | _ :: _, some n => if n ≤ largest then .ok (.int n) else .error .badInteger
      | _, _ => .error .badInteger
    else
      match Decimal.float? plain with
      | some x => .ok (.float x)
      | none => .error .badFloat

/-- The base that a number's beginning marks, and what follows the mark. -/
def base? : Text → Nat × Text
  | '0' :: 'b' :: t => (2, t)
  | '0' :: 'B' :: t => (2, t)
  | '0' :: 'o' :: t => (8, t)
  | '0' :: 'O' :: t => (8, t)
  | '0' :: 'x' :: t => (16, t)
  | '0' :: 'X' :: t => (16, t)
  | t => (10, t)

/-- The number that a text begins with, and what follows it. -/
def number (t : Text) : Except GrammarFault Token × Text :=
  let (base, body) := base? t
  let (digits, last, rest) := takeNumber base (if base = 10 then .whole else .based) body
  (numberToken base last digits, rest)

end Literal

end ScriptedTemplate
