import ScriptedTemplate.Yaml.Fault
import ScriptedTemplate.Yaml.Token
import ScriptedTemplate.Text.Digits

/-
  Tags, anchors and directives — what is said about nodes and documents

  A tag is a handle and a suffix, or a whole URI between angle brackets. Octets
  of a URI can be given in hexadecimal after a percent sign and must form UTF-8.
  Directives give the version of a document, which is 1.1 or 1.2, and what a
  handle stands for.
-/

namespace ScriptedTemplate

namespace Yaml

/-- Whether a character can stand in a tag's suffix; brackets and commas can
only where the URI is marked off. -/
def isUriChar (marked : Bool) (c : Char) : Bool :=
  isNameChar c || ";/?:@&=+$.%!~*'()".toList.contains c || (marked && ",[]".toList.contains c)

/-- The number of octets in the UTF-8 form that begins with an octet, and the
part of the code point that it holds. -/
def leadingOctet? (n : Nat) : Option (Nat × Nat) :=
  if n < 0x80 then some (1, n)
  else if 0xC0 ≤ n && n < 0xE0 then some (2, n - 0xC0)
  else if 0xE0 ≤ n && n < 0xF0 then some (3, n - 0xE0)
  else if 0xF0 ≤ n && n < 0xF8 then some (4, n - 0xF0)
  else none

/-- The octet given in hexadecimal at a cursor. -/
def octet? (c : Cursor) : Option Nat :=
  match c.rest with
  | '%' :: a :: b :: _ => Text.digits? 16 [a, b]
  | _ => none

/-- The `n` octets of a character that follow the leading one. -/
def trailingOctets (a : Activity) (start : Mark) :
    Nat → Nat → Cursor → Except Fault (Nat × Cursor)
  | 0, code, c => .ok (code, c)
  | n + 1, code, c =>
    match octet? c with
    | none => failed .noEscapedOctet c.mark a start
    | some o =>
      if 0x80 ≤ o && o < 0xC0 then trailingOctets a start n (code * 64 + (o - 0x80)) (c.skip 3)
      else failed .badTrailingOctet c.mark a start

/-- The character given by octets at a cursor. -/
def octets (a : Activity) (start : Mark) (c : Cursor) : Except Fault (Char × Cursor) :=
  match octet? c with
  | none => failed .noEscapedOctet c.mark a start
  | some o =>
    match leadingOctet? o with
    | none => failed .badLeadingOctet c.mark a start
    | some (width, code) =>
      (trailingOctets a start (width - 1) code (c.skip 3)).map fun (n, c) => (Char.ofNat n, c)

/-- The URI characters at a cursor. Every step uses up a character, so as many
steps as there are characters are enough. -/
def uriFrom (marked : Bool) (a : Activity) (start : Mark) :
    Nat → Text → Cursor → Except Fault (Text × Cursor)
  | 0, done, c => .ok (done, c)
  | fuel + 1, done, c =>
    match c.peek with
    | none => .ok (done, c)
    | some d =>
      if d == '%' then
        match octets a start c with
        | .error f => .error f
        | .ok (x, c) => uriFrom marked a start fuel (done ++ [x]) c
      else if isUriChar marked d then uriFrom marked a start fuel (done ++ [d]) (c.skip 1)
      else .ok (done, c)

/-- The URI at a cursor, after a beginning that has been read; without one it
cannot be empty. -/
def uri (marked : Bool) (a : Activity) (start : Mark) (head : Text) (c : Cursor) :
    Except Fault (Text × Cursor) :=
  match uriFrom marked a start (c.rest.length + 1) [] c with
  | .error f => .error f
  | .ok (t, d) =>
    if head = [] && t = [] then failed .noTagUri d.mark a start else .ok (head.drop 1 ++ t, d)

/-- What stands at the beginning of a tag: an exclamation mark, a name, and
another exclamation mark if it is a handle. -/
def handle (c : Cursor) : Text × Cursor :=
  let (name, c) := (c.skip 1).takeWhile isNameChar
  if c.peek == some '!' then ('!' :: name ++ ['!'], c.skip 1) else ('!' :: name, c)

/-- Whether the beginning of a tag is a handle with a name or the double one. -/
def isHandle (t : Text) : Bool := 2 ≤ t.length && t.getLast? == some '!'

/-- The tag at a cursor: its handle and its suffix. A tag without handle has an
empty one, and so has the tag that is only an exclamation mark. -/
def tagParts (c : Cursor) : Except Fault (Text × Text × Cursor) :=
  let start := c.mark
  if c.peekAt 1 == some '<' then
    match uri true .tagUri start [] (c.skip 2) with
    | .error f => .error f
    | .ok (t, c) =>
      if c.peek == some '>' then .ok ([], t, c.skip 1) else failed .noTagEnd c.mark .tag start
  else
    let (h, c) := handle c
    if isHandle h then (uri false .tagUri start [] c).map fun (t, c) => (h, t, c)
    else
      match uri false .tagUri start h c with
      | .error f => .error f
      | .ok ([], c) => .ok ([], ['!'], c)
      | .ok (t, c) => .ok (['!'], t, c)

/-- The tag at a cursor, which a separator must follow; in a flow collection a
comma can follow as well. -/
def tag (inFlow : Bool) (c : Cursor) : Except Fault (Lexeme × Cursor) :=
  match tagParts c with
  | .error f => .error f
  | .ok (h, t, d) =>
    if (inFlow && d.peek == some ',') || isSeparator d.peek then .ok (.tag h t, d)
    else failed .noSeparator d.mark .tag c.mark

/-- The name of an anchor or an alias, and the cursor after it. -/
def anchorName (a : Activity) (c : Cursor) : Except Fault (Text × Cursor) :=
  let (name, d) := (c.skip 1).takeWhile isNameChar
  if name ≠ [] && (isSeparator d.peek || d.peek.any fun x => "?:,]\x7d%@\x60".toList.contains x)
  then .ok (name, d)
  else failed .noAnchorName d.mark a c.mark

/-- A number of a version, of at most nine digits. -/
def versionNumber (start : Mark) (c : Cursor) : Except Fault (Nat × Cursor) :=
  let (digits, d) := c.takeWhile Char.isDigit
  if 9 < digits.length then failed .longVersion (c.skip 9).mark .versionDirective start
  else if digits = [] then failed .noVersion d.mark .versionDirective start
  else .ok ((Text.digits? 10 digits).getD 0, d)

def version (start : Mark) (c : Cursor) : Except Fault (Lexeme × Cursor) :=
  match versionNumber start (c.skipWhile isBlank) with
  | .error f => .error f
  | .ok (major, c) =>
    if c.peek == some '.' then
      (versionNumber start (c.skip 1)).map fun (minor, c) => (.version major minor, c)
    else failed .noVersionDot c.mark .versionDirective start

/-- The handle that a directive gives, and the URI that it stands for. -/
def tagPrefix (start : Mark) (c : Cursor) : Except Fault (Lexeme × Cursor) :=
  let c := c.skipWhile isBlank
  if c.peek ≠ some '!' then failed .noHandleStart c.mark .tagPrefixHandle start
  else
    let (h, c) := handle c
    if h ≠ ['!'] && !isHandle h then failed .noHandleStart c.mark .tagPrefixHandleEnd start
    else if !(c.peek.any isBlank) then failed .noWhitespace c.mark .tagPrefix start
    else
      match uri true .tagPrefixUri start [] (c.skipWhile isBlank) with
      | .error f => .error f
      | .ok (t, c) =>
        if isSeparator c.peek then .ok (.tagPrefix h t, c)
        else failed .noSeparator c.mark .tagPrefix start

/-- The directive at a cursor, and the cursor after its line. -/
def directive (c : Cursor) : Except Fault (Lexeme × Cursor) :=
  let start := c.mark
  let (name, d) := (c.skip 1).takeWhile isNameChar
  if name = [] then failed .noDirectiveName d.mark .directive start
  else if !isSeparator d.peek then failed .badDirectiveName d.mark .directive start
  else
    let body :=
      if name = "YAML".toList then version start d
      else if name = "TAG".toList then tagPrefix start d
      else failed .unknownDirective d.mark .directive start
    match body with
    | .error f => .error f
    | .ok (l, c) =>
      let c := c.skipComment
      if c.peek.all isBreak then .ok (l, c.skipBreak)
      else failed .noLineEnd c.mark .directive start

end Yaml

end ScriptedTemplate
