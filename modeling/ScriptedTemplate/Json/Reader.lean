import ScriptedTemplate.Json.Number
import ScriptedTemplate.Text.Digits

/-
  Reading JSON

  A reader takes what is left of the text and answers a result and what is left
  after it, or a failure. A failure says what is wrong, what was left, and how
  many bytes further the error is to be shown.
-/

namespace ScriptedTemplate

namespace Json

/-- A failed reading: the cause, what was left of the text, and how many bytes
after that the error shows. -/
structure Stop where
  fault : JsonFault
  rest : Text
  ahead : Nat

/-- What a reader answers. -/
abbrev Reading (α : Type) := Except Stop (α × Text)

/-- The failure at what is left of a text. -/
def stopAt {α : Type} (f : JsonFault) (rest : Text) : Reading α := .error ⟨f, rest, 0⟩

/-- The failure at the first byte of what is left of a text. -/
def stopOn {α : Type} (f : JsonFault) (rest : Text) : Reading α := .error ⟨f, rest, 1⟩

def skipSpace (t : Text) : Text :=
  t.dropWhile fun c => c == ' ' || c == '\n' || c == '\t' || c == '\r'

def readWord (v : Json) : Text → Text → Reading Json
  | [], t => .ok (v, t)
  | _ :: _, [] => stopAt .endInValue []
  | w :: ws, c :: t => if w = c then readWord v ws t else stopOn .badWord (c :: t)

/-- The value of four hexadecimal digits, and what follows them. -/
def readHex (t : Text) : Reading Nat :=
  match t with
  | a :: b :: c :: d :: rest =>
    match Text.digits? 16 [a, b, c, d] with
    | some n => .ok (n, rest)
    | none => .error ⟨.badEscape, t, 4⟩
  | _ => if t.bytes < 4 then .error ⟨.endInString, [], 0⟩ else .error ⟨.badEscape, t, 4⟩

/-- The character of a code given in hexadecimal; a code of the upper half of a
pair needs the lower half directly after it. -/
def readCode (t : Text) : Reading Char :=
  match readHex t with
  | .error e => .error e
  | .ok (n, rest) =>
    if 0xDC00 ≤ n && n ≤ 0xDFFF then stopAt .loneSurrogate rest
    else if n < 0xD800 || 0xDBFF < n then .ok (Char.ofNat n, rest)
    else
      match rest with
      | [] => stopAt .endInString []
      | '\\' :: 'u' :: low =>
        match readHex low with
        | .error e => .error e
        | .ok (m, rest) =>
          if m < 0xDC00 || 0xDFFF < m then stopAt .loneSurrogate rest
          else .ok (Char.ofNat (0x10000 + (n - 0xD800) * 0x400 + (m - 0xDC00)), rest)
      | '\\' :: [] => stopAt .endInString []
      | '\\' :: c :: low => stopOn .brokenPair (c :: low)
      | c :: low => stopOn .brokenPair (c :: low)

def shortEscape? : Char → Option Char
  | '"' => some '"'
  | '\\' => some '\\'
  | '/' => some '/'
  | 'b' => some (Char.ofNat 8)
  | 'f' => some (Char.ofNat 12)
  | 'n' => some '\n'
  | 'r' => some '\r'
  | 't' => some '\t'
  | _ => none

/-- Read the rest of a string; `done` holds its characters so far, the newest
first. A step uses up a character or more, so as many steps as there are
characters are enough. -/
def readString : Nat → Text → Text → Reading String
  | 0, _, t => stopAt .endInString t
  | _ + 1, _, [] => stopAt .endInString []
  | _ + 1, done, '"' :: t => .ok (String.ofList done.reverse, t)
  | _ + 1, _, '\\' :: [] => stopAt .endInString []
  | fuel + 1, done, '\\' :: 'u' :: t =>
    match readCode t with
    | .error e => .error e
    | .ok (c, rest) => readString fuel (c :: done) rest
  | fuel + 1, done, '\\' :: c :: t =>
    match shortEscape? c with
    | some d => readString fuel (d :: done) t
    | none => stopOn .badEscape (c :: t)
  | fuel + 1, done, c :: t =>
    if c.toNat < 0x20 then stopOn .controlCharacter (c :: t) else readString fuel (c :: done) t

/-- Read digits onto a number as long as it stays below 2^64. -/
def readDigits (n : Nat) (count : Nat) : Text → Nat × Nat × Text
  | [] => (n, count, [])
  | c :: t =>
    if c.isDigit && n * 10 + digitValue c ≤ largestWhole then
      readDigits (n * 10 + digitValue c) (count + 1) t
    else (n, count, c :: t)

/-- The number of leading digits, and what follows them. -/
def skipDigits (t : Text) : Nat × Text :=
  ((t.takeWhile Char.isDigit).length, t.dropWhile Char.isDigit)

/-- The number of a number taken apart. -/
def finish (d : Digits) (rest : Text) : Reading Json :=
  match d.number? with
  | some v => .ok (v, rest)
  | none => stopAt .numberTooLarge rest

/-- Read digits onto an exponent while it fits 31 bits; the last digit that does
not fit is used up. -/
def readExponentDigits (n : Nat) : Text → Option Nat × Text
  | [] => (some n, [])
  | c :: t =>
    if !c.isDigit then (some n, c :: t)
    else if twoTo 31 - 1 < n * 10 + digitValue c then (none, t)
    else readExponentDigits (n * 10 + digitValue c) t

/-- Read an exponent after its letter and sign. -/
def readExponent (d : Digits) (down : Bool) : Text → Reading Json
  | [] => stopAt .endInValue []
  | c :: t =>
    if !c.isDigit then stopOn .badNumber (c :: t)
    else
      match readExponentDigits (digitValue c) t with
      | (some e, rest) =>
        let exponent := if down then d.exponent - e else d.exponent + e
        finish { d with exponent, whole := false } rest
      | (none, rest) =>
        if d.digits != 0 && !down then stopAt .numberTooLarge rest
        else .ok (.float (if d.negative then -0.0 else 0.0), (skipDigits rest).2)

/-- Read an exponent, if there is one, and finish the number. -/
def readScale (d : Digits) : Text → Reading Json
  | c :: t =>
    if c == 'e' || c == 'E' then
      match t with
      | '+' :: rest => readExponent d false rest
      | '-' :: rest => readExponent d true rest
      | _ => readExponent d false t
    else finish d (c :: t)
  | [] => finish d []

/-- Read a fraction, if there is one, and finish the number. -/
def readFraction (d : Digits) : Text → Reading Json
  | '.' :: t =>
    let (n, count, rest) := readDigits d.digits 0 t
    match rest with
    | c :: _ =>
      if c.isDigit then
        readScale { d with digits := n, exponent := d.exponent - count, whole := false }
          (skipDigits rest).2
      else if count = 0 then stopOn .badNumber rest
      else readScale { d with digits := n, exponent := d.exponent - count, whole := false } rest
    | [] =>
      if count = 0 then stopOn .endInValue []
      else finish { d with digits := n, exponent := d.exponent - count, whole := false } []
  | t => readScale d t

def readNumber (negative : Bool) : Text → Reading Json
  | [] => stopAt .endInValue []
  | '0' :: t =>
    match t with
    | c :: _ =>
      if c.isDigit then stopOn .badNumber t else readFraction ⟨negative, 0, 0, true⟩ t
    | [] => finish ⟨negative, 0, 0, true⟩ []
  | c :: t =>
    if !c.isDigit then stopOn .badNumber (c :: t)
    else
      let (n, _, rest) := readDigits 0 0 (c :: t)
      let (excess, rest) := skipDigits rest
      readFraction ⟨negative, n, excess, excess == 0⟩ rest

mutual

/-- Read a document. `depth` is how many arrays and objects may still be
opened. -/
def readValue : Nat → Nat → Text → Reading Json
  | 0, _, t => stopAt .endInValue t
  | fuel + 1, depth, t =>
    match skipSpace t with
    | [] => stopOn .endInValue []
    | 'n' :: t => readWord .null "ull".toList t
    | 't' :: t => readWord (.bool true) "rue".toList t
    | 'f' :: t => readWord (.bool false) "alse".toList t
    | '-' :: t => readNumber true t
    | '"' :: t =>
      match readString (t.length + 1) [] t with
      | .ok (s, rest) => .ok (.string s, rest)
      | .error e => .error e
    | '[' :: t =>
      match depth with
      | 0 => stopOn .tooDeep ('[' :: t)
      | depth + 1 => readItems fuel depth true [] t
    | '{' :: t =>
      match depth with
      | 0 => stopOn .tooDeep ('{' :: t)
      | depth + 1 => readFields fuel depth true [] t
    | c :: t => if c.isDigit then readNumber false (c :: t) else stopOn .wantsValue (c :: t)

/-- Read the rest of an array; `done` holds its items so far, the newest
first. -/
def readItems : Nat → Nat → Bool → List Json → Text → Reading Json
  | 0, _, _, _, t => stopAt .endInList t
  | fuel + 1, depth, isFirst, done, t =>
    let start : Reading Unit :=
      match skipSpace t with
      | [] => stopOn .endInList []
      | ',' :: t =>
        if isFirst then .ok ((), ',' :: t)
        else
          match skipSpace t with
          | [] => stopOn .endInValue []
          | ']' :: t => stopOn .trailingComma (']' :: t)
          | t => .ok ((), t)
      | t => if isFirst then .ok ((), t) else stopOn .wantsListEnd t
    match skipSpace t with
    | ']' :: t => .ok (.array done.reverse, t)
    | _ =>
      match start with
      | .error e => .error e
      | .ok ((), t) =>
        match readValue fuel depth t with
        | .error e => .error e
        | .ok (v, rest) => readItems fuel depth false (v :: done) rest

/-- Read the rest of an object; `done` holds its fields so far. -/
def readFields : Nat → Nat → Bool → List (String × Json) → Text → Reading Json
  | 0, _, _, _, t => stopAt .endInObject t
  | fuel + 1, depth, isFirst, done, t =>
    let start : Reading Unit :=
      match skipSpace t with
      | [] => stopOn .endInObject []
      | '"' :: t => if isFirst then .ok ((), t) else stopOn .wantsObjectEnd ('"' :: t)
      | ',' :: t =>
        if isFirst then stopOn .keyNotString (',' :: t)
        else
          match skipSpace t with
          | [] => stopOn .endInValue []
          | '"' :: t => .ok ((), t)
          | '}' :: t => stopOn .trailingComma ('}' :: t)
          | t => stopOn .keyNotString t
      | t => if isFirst then stopOn .keyNotString t else stopOn .wantsObjectEnd t
    match skipSpace t with
    | '}' :: t => .ok (.object done, t)
    | _ =>
      match start with
      | .error e => .error e
      | .ok ((), t) =>
        match readString (t.length + 1) [] t with
        | .error e => .error e
        | .ok (name, rest) =>
          match skipSpace rest with
          | [] => stopOn .endInObject []
          | ':' :: rest =>
            match readValue fuel depth rest with
            | .error e => .error e
            | .ok (v, rest) => readFields fuel depth false (insertField name v done) rest
          | rest => stopOn .wantsColon rest

end

/-- How many arrays and objects may stand inside each other. -/
def depthLimit : Nat := 127

/-- The line and column after the first `n` bytes of a text. -/
def place (line column : Nat) : Nat → Text → Nat × Nat
  | 0, _ => (line, column)
  | _ + 1, [] => (line, column)
  | n + 1, c :: t =>
    if c = '\n' then place (line + 1) 0 n t
    else place line (column + min c.utf8Size (n + 1)) (n + 1 - c.utf8Size) t
termination_by _ t => t.length

/-- The error of a failed reading of `t`. -/
def Stop.toError (t : Text) (s : Stop) : JsonError :=
  let (line, column) := place 1 0 (t.bytes - s.rest.bytes + s.ahead) t
  ⟨s.fault, line, column⟩

/-- The document that a text is, space around it apart. -/
def parse (t : Text) : Except JsonError Json :=
  let outcome : Reading Json :=
    match readValue (2 * t.length + 2) depthLimit t with
    | .error e => .error e
    | .ok (v, rest) =>
      match skipSpace rest with
      | [] => .ok (v, [])
      | rest => stopOn .trailingCharacters rest
  match outcome with
  | .ok (v, _) => .ok v
  | .error s => .error (s.toError t)

end Json

end ScriptedTemplate
