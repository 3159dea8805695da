import ScriptedTemplate.Script.Arguments
import ScriptedTemplate.Text.Digits
import ScriptedTemplate.Decimal.Places

/-
  Formats — values set into a pattern

  A pattern is text with places for values. A place begins with a percent sign
  and ends with the letter of a conversion; between them may stand the name of
  an argument in round brackets, flags, a width, and a point with a precision.
  A star for a number takes it from the arguments. Two percent signs stand for
  one. Arguments that no place takes are left out.

  A fault names the offset, in bytes, at which the place begins behind its
  percent sign.
-/

namespace ScriptedTemplate

namespace Format

/-- A number in a place: none, one that is written, or one that an argument
gives. -/
inductive Size where
  | absent
  | given (n : Nat)
  | taken

/-- A place for a value. -/
structure Place where
  name : Option String
  flags : Text
  width : Size
  precision : Size
  conversion : Char
  offset : Nat

/-- A piece of a pattern. -/
inductive Piece where
  | char (c : Char)
  | place (p : Place)

/-- Whether a character is a flag: an alternative form, zeros or no blanks on
the left, a blank or a plus before what is not negative. -/
def isFlag (c : Char) : Bool := "#0- +".toList.contains c

/-- The number at the start of a text, and what follows it. -/
def size (t : Text) : Size × Text :=
  match t with
  | '*' :: rest => (.taken, rest)
  | t =>
    match t.takeWhile Char.isDigit with
    | [] => (.absent, t)
    | digits => (.given ((Text.digits? 10 digits).getD 0), t.dropWhile Char.isDigit)

/-- The place that a text behind a percent sign begins with, and what follows
it. -/
def place (offset : Nat) (t : Text) : Except Cause (Place × Text) :=
  let (name, t) :=
    match t with
    | '(' :: rest =>
      match Text.splitAt? [')'] rest with
      | some (name, rest) => (some (String.ofList name), rest)
      | none => (none, [])
    | t => (none, t)
  let (flags, t) := (t.takeWhile isFlag, t.dropWhile isFlag)
  let (width, t) := size t
  let (precision, t) : Size × Text :=
    match t with
    | '.' :: rest =>
      match size rest with
      | (.absent, rest) => (.given 0, rest)
      | found => found
    | t => (.absent, t)
  match t.dropWhile "hlL".toList.contains with
  | [] => .error (.openFormat offset)
  | c :: rest => .ok (⟨name, flags, width, precision, c, offset⟩, rest)

/-- The pieces of a pattern; `offset` is where the text stands in it. Every
piece uses up a character, so as many as there are characters are enough. -/
def pieces : Nat → Nat → Text → Except Cause (List Piece)
  | 0, _, _ => .ok []
  | _ + 1, _, [] => .ok []
  | fuel + 1, offset, '%' :: t => do
    let (p, rest) ← place (offset + 1) t
    let used := Text.bytes t - Text.bytes rest
    return .place p :: (← pieces fuel (offset + 1 + used) rest)
  | fuel + 1, offset, c :: t => do return .char c :: (← pieces fuel (offset + c.utf8Size) t)

/-- What a value is called where it does not fit a place. -/
def typeName : Value → String
  | .int _ => "integer"
  | .float _ => "float"
  | v => v.kind.name

def conversionName (c : Char) : String :=
  match c with
  | 'o' => "octal"
  | 'x' | 'X' => "hexadecimal"
  | 'c' => "character"
  | 'e' | 'E' => "exponent"
  | 'f' | 'F' => "fixed-point"
  | 'g' | 'G' => "general"
  | _ => "decimal"

/-- A place with the numbers it takes from the arguments put in. -/
structure Setting where
  flags : Text
  width : Option Nat
  precision : Option Nat
  conversion : Char
  offset : Nat

namespace Setting

def has (s : Setting) (c : Char) : Bool := s.flags.contains c

/-- A text filled up with blanks to the width, which counts bytes. -/
def fill (s : Setting) (t : Text) : Text :=
  let blanks : Text := List.replicate (s.width.getD 0 - t.bytes) ' '
  if s.has '-' then t ++ blanks else blanks ++ t

/-- A number, given by what stands before its digits and by its digits, filled
up to the width. -/
def fillNumber (s : Setting) (negative : Bool) (lead digits : Text) : Text :=
  let sign : Text :=
    if negative then ['-'] else if s.has '+' then ['+'] else if s.has ' ' then [' '] else []
  let before := sign ++ lead
  if s.has '0' && !s.has '-' then
    before ++ List.replicate (s.width.getD 0 - before.length - digits.length) '0' ++ digits
  else s.fill (before ++ digits)

/-- The failure of a value that has no such form. -/
def misfit {α : Type} (s : Setting) (v : Value) : Except Cause α :=
  .error (.badFormat s.offset (typeName v) (conversionName s.conversion) s.conversion)

/-- A whole number in a base; what marks the base comes first if asked for. -/
def whole (s : Setting) (base : Nat) (mark : Text) (upper : Bool) (v : Value) :
    Except Cause Text :=
  match v.whole? with
  | none => s.misfit v
  | some n =>
    let digits := Nat.toDigits base n.natAbs
    let digits := List.replicate (s.precision.getD 0 - digits.length) '0' ++ digits
    let lead := if s.has '#' then mark else []
    let shift (t : Text) : Text := if upper then t.map Char.toUpper else t
    .ok (s.fillNumber (n < 0) (shift lead) (shift digits))

def double (s : Setting) (v : Value) : Except Cause Text :=
  match v.double? with
  | none => s.misfit v
  | some x =>
    let upper := s.conversion.isUpper
    let shift (t : Text) : Text := if upper then t.map Char.toUpper else t
    match Binary.ofFloat? x with
    | none =>
      .ok (s.fill (shift (if x.isNaN then "nan".toList else if x < 0.0 then "-inf".toList
        else if s.has '+' then "+inf".toList else "inf".toList)))
    | some b =>
      let places := s.precision.getD 6
      let digits :=
        match s.conversion.toLower with
        | 'e' => b.scientific places
        | 'f' => b.fixed places
        | _ => b.general places (s.has '#')
      .ok (s.fillNumber b.negative [] (shift digits))

/-- A text, cut off behind as many characters as the precision says. -/
def text (s : Setting) (t : Text) : Text :=
  s.fill (match s.precision with | some n => t.take n | none => t)

/-- A character, given by itself or by its code. -/
def character (s : Setting) (v : Value) : Except Cause Text :=
  match v with
  | .string t _ => if t.length = 1 then .ok (s.fill t.toList) else s.misfit v
  | v =>
    match v.whole? with
    | some n =>
      if 0 ≤ n && n.toNat.isValidChar then .ok (s.fill [Char.ofNat n.toNat]) else s.misfit v
    | none => s.misfit v

/-- A value in its place; `shown` is its text. -/
def set (s : Setting) (shown : Value → Text) (v : Value) : Except Cause Text :=
  match s.conversion with
  | 'd' | 'i' | 'u' => s.whole 10 [] false v
  | 'o' => s.whole 8 "0o".toList false v
  | 'x' => s.whole 16 "0x".toList false v
  | 'X' => s.whole 16 "0x".toList true v
  | 'e' | 'E' | 'f' | 'F' | 'g' | 'G' => s.double v
  | 'c' => s.character v
  | 's' => .ok (s.text (shown v))
  | 'r' | 'a' => .ok (s.text v.inner)
  | c => .error (.unknownFormat s.offset c)

end Setting

def next (offset : Nat) : Taking Value := do
  match ← Arguments.next? with
  | some v => return v
  | none => throw (.missingFormat offset)

/-- The number that a place gives or takes. -/
def numberOf (offset : Nat) : Size → Taking (Option Nat)
  | .absent => return none
  | .given n => return some n
  | .taken => do return some (← Arguments.asSize (← next offset))

def fillPiece (named : Named) (shown : Value → Text) : Piece → Taking Text
  | .char c => return [c]
  | .place p => do
    if p.conversion = '%' then return ['%']
    let width ← numberOf p.offset p.width
    let precision ← numberOf p.offset p.precision
    let v ←
      match p.name with
      | none => next p.offset
      | some s =>
        match named.get? s with
        | some v => pure v
        | none => throw (.missingFormat p.offset)
    Setting.set ⟨p.flags, width, precision, p.conversion, p.offset⟩ shown v

/-- A pattern with arguments in its places; `shown` is the text of an
argument. -/
def fill (pattern : Text) (named : Named) (shown : Value → Text) : Taking Text := do
  let all ← pieces (pattern.length + 1) 0 pattern
  let texts ← all.mapM (fillPiece named shown)
  let _ ← Arguments.rest
  return texts.flatten

end Format

end ScriptedTemplate
