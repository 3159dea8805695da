import ScriptedTemplate.Yaml.Fault
import ScriptedTemplate.Yaml.Scalar.Gap
import ScriptedTemplate.Text.Digits

/-
  Quoted scalars

  Between single quotes a quote is written twice and nothing else is special.
  Between double quotes a backslash begins an escape, and one at the end of a
  line joins the next line without a blank. In both, lines are folded.
-/

namespace ScriptedTemplate

namespace Yaml

namespace Quoted

/-- What an escape of one character stands for. -/
def shortEscape? : Char → Option Char
  | '0' => some (Char.ofNat 0)
  | 'a' => some (Char.ofNat 7)
  | 'b' => some (Char.ofNat 8)
  | 't' => some '\t'
  | '\t' => some '\t'
  | 'n' => some '\n'
  | 'v' => some (Char.ofNat 0x0B)
  | 'f' => some (Char.ofNat 0x0C)
  | 'r' => some '\r'
  | 'e' => some (Char.ofNat 0x1B)
  | ' ' => some ' '
  | '"' => some '"'
  | '/' => some '/'
  | '\\' => some '\\'
  | 'N' => some (Char.ofNat 0x85)
  | '_' => some (Char.ofNat 0xA0)
  | 'L' => some (Char.ofNat 0x2028)
  | 'P' => some (Char.ofNat 0x2029)
  | _ => none

/-- How many hexadecimal digits follow an escape that gives a code point. -/
def escapeWidth? : Char → Option Nat
  | 'x' => some 2
  | 'u' => some 4
  | 'U' => some 8
  | _ => none

/-- The character that an escape at the cursor stands for, and the cursor after
it. -/
def escape (start : Mark) (c : Cursor) : Except Fault (Char × Cursor) :=
  match c.peekAt 1 with
  | none => failed .unknownEscape c.mark .quotedEscape start
  | some e =>
    match shortEscape? e, escapeWidth? e with
    | some x, _ => .ok (x, c.skip 2)
    | none, none => failed .unknownEscape c.mark .quotedEscape start
    | none, some width =>
      let code := c.skip 2
      let digits := code.rest.take width
      match Text.digits? 16 digits with
      | none => failed .noHexadecimal code.mark .quotedEscape start
      | some n =>
        if digits.length < width then failed .noHexadecimal code.mark .quotedEscape start
        else if n.isValidChar then .ok (Char.ofNat n, code.skip width)
        else failed .badCodePoint code.mark .quotedEscape start

/-- How a word between quotes ends: the next gap begins with an escaped break or
it does not. -/
structure Word where
  content : Text
  gap : Gap
  cursor : Cursor

/-- The next word. Every step uses up a character, so as many steps as there are
characters are enough. -/
def word (quote : Char) (start : Mark) : Nat → Cursor → Except Fault Word
  | 0, c => .ok ⟨[], .none, c⟩
  | fuel + 1, c =>
    let prepend (x : Char) (c : Cursor) : Except Fault Word :=
      (word quote start fuel c).map fun w => { w with content := x :: w.content }
    match c.rest with
    | [] => .ok ⟨[], .none, c⟩
    | d :: rest =>
      if isSeparator (some d) then .ok ⟨[], .none, c⟩
      else if quote == '\'' && d == quote && rest.head? == some quote then
        prepend quote (c.skip 2)
      else if d == quote then .ok ⟨[], .none, c⟩
      else if quote == '"' && d == '\\' then
        if rest.head?.any isBreak then .ok ⟨[], .afterEscape, (c.skip 1).skipBreak⟩
        else
          match escape start c with
          | .error f => .error f
          | .ok (x, c) => prepend x c
      else prepend d (c.skip 1)

/-- Read words on after `done`, up to the closing quote. -/
def readFrom (quote : Char) (start : Mark) : Nat → Text → Cursor → Except Fault (Text × Cursor)
  | 0, done, c => .ok (done, c)
  | fuel + 1, done, c =>
    if c.atDocumentRule then failed .documentRule c.mark .quotedScalar start
    else if c.rest = [] then failed .endOfStream c.mark .quotedScalar start
    else
      match word quote start (c.rest.length + 1) c with
      | .error f => .error f
      | .ok w =>
        if w.cursor.peek == some quote then .ok (done ++ w.content, w.cursor.skip 1)
        else
          match w.gap.extend 0 w.cursor.mark w.cursor.rest with
          | .error m => failed .tabInIndentation m .quotedScalar start
          | .ok (g, c) => readFrom quote start fuel (done ++ w.content ++ g.joined) c

/-- The quoted scalar at a cursor, and the cursor after it. -/
def read (quote : Char) (c : Cursor) : Except Fault (Text × Cursor) :=
  readFrom quote c.mark (c.rest.length + 1) [] (c.skip 1)

end Quoted

end Yaml

end ScriptedTemplate
