import ScriptedTemplate.Yaml.Fault
import ScriptedTemplate.Yaml.Scalar.Gap

/-
  Plain scalars — scalars without quotes

  A plain scalar ends at a colon that separates, at a comment, at the beginning
  or end of a document, and where the indentation of its collection ends. In a
  flow collection it ends at commas and brackets too, and a colon right before
  one of those is refused.
-/

namespace ScriptedTemplate

namespace Yaml

namespace Plain

/-- Whether a plain scalar ends before a character, given the one after it. -/
def isEnd (inFlow : Bool) (c : Char) (next : Option Char) : Bool :=
  (c == ':' && isSeparator next) || (inFlow && ",[]\x7b\x7d".toList.contains c)

/-- Whether a character is a colon that cannot stand where it does. -/
def isStray (inFlow : Bool) (c : Char) (next : Option Char) : Bool :=
  inFlow && c == ':' && next.any fun d => ",?[]\x7b\x7d".toList.contains d

/-- The next word, and the cursor after it. -/
def word (inFlow : Bool) (m : Mark) : Text → Except Mark (Text × Cursor)
  | [] => .ok ([], ⟨[], m⟩)
  | c :: rest =>
    if isSeparator (some c) then .ok ([], ⟨c :: rest, m⟩)
    else if isStray inFlow c rest.head? then .error m
    else if isEnd inFlow c rest.head? then .ok ([], ⟨c :: rest, m⟩)
    else
      match word inFlow m.next rest with
      | .error m => .error m
      | .ok (more, cursor) => .ok (c :: more, cursor)

/-- Read words on after `done` and the gap behind it, up to the end of the
scalar; the answer also says whether a line has ended since the last word. Every
round uses up a character, so as many rounds as there are characters are
enough. -/
def readFrom (inFlow : Bool) (limit : Nat) (start : Mark) :
    Nat → Text → Gap → Cursor → Except Fault (Text × Bool × Cursor)
  | 0, done, g, c => .ok (done, g.isBroken, c)
  | fuel + 1, done, g, c =>
    if c.atDocumentRule || c.peek == some '#' then .ok (done, g.isBroken, c)
    else
      match word inFlow c.mark c.rest with
      | .error m => failed .unexpectedColon m .plainScalar start
      | .ok (w, c) =>
        let (done, g) := if w = [] then (done, g) else (done ++ g.joined ++ w, Gap.none)
        if !(c.peek.any fun d => isBlank d || isBreak d) then .ok (done, g.isBroken, c)
        else
          match g.extend limit c.mark c.rest with
          | .error m => failed .tabInIndentation m .plainScalar start
          | .ok (g, c) =>
            if !inFlow && c.mark.column < limit then .ok (done, g.isBroken, c)
            else readFrom inFlow limit start fuel done g c

/-- The plain scalar at a cursor, whose lines lie right of column `limit` or on
it. -/
def read (inFlow : Bool) (limit : Nat) (c : Cursor) : Except Fault (Text × Bool × Cursor) :=
  readFrom inFlow limit c.mark (c.rest.length + 1) [] .none c

end Plain

end Yaml

end ScriptedTemplate
