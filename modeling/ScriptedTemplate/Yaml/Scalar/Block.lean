import ScriptedTemplate.Yaml.Fault
import ScriptedTemplate.Text.Digits

/-
  Block scalars — scalars that keep their lines

  A block scalar begins with a header line: the style, how many columns its
  lines are indented, and what becomes of the breaks at its end. Without a
  number the first line that is not empty sets the indentation. A literal scalar
  keeps its breaks. A folded one turns the break between two lines into a blank,
  unless one of them begins with a blank.
-/

namespace ScriptedTemplate

namespace Yaml

namespace Block

/-- What becomes of the breaks at the end: none is kept, the first is, all
are. -/
inductive Chomp where
  | strip
  | clip
  | keep
  deriving DecidableEq, Repr

def chomp? : Option Char → Option Chomp
  | some '+' => some .keep
  | some '-' => some .strip
  | _ => none

/-- The header after the style: chomping and number of columns in either order,
both optional. -/
def header (start : Mark) (c : Cursor) : Except Fault (Chomp × Nat × Cursor) :=
  let columns (c : Cursor) : Except Fault (Nat × Cursor) :=
    match c.peek.bind (Text.digitBelow? 10) with
    | none => .ok (0, c)
    | some 0 => failed .zeroIndentation c.mark .blockScalar start
    | some n => .ok (n, c.skip 1)
  match chomp? c.peek with
  | some ch =>
    match columns (c.skip 1) with
    | .error f => .error f
    | .ok (n, c) => .ok (ch, n, c)
  | none =>
    match columns c with
    | .error f => .error f
    | .ok (n, c) =>
      match n, chomp? c.peek with
      | _ + 1, some ch => .ok (ch, n, c.skip 1)
      | _, _ => .ok (.clip, n, c)

/-- The indentation and the empty lines from a cursor on: the breaks, and the
widest indentation among the lines and the one that follows them. At most
`indent` columns belong to the indentation, or any number when that is zero; a
tab among them is refused. -/
def emptyLines (indent widest : Nat) (m : Mark) : Text → Except Mark (Text × Nat × Cursor)
  | [] => .ok ([], max widest m.column, ⟨[], m⟩)
  | '\r' :: '\n' :: rest =>
    (emptyLines indent (max widest m.column) (m.nextLine 2) rest).map fun (b, e) => ('\n' :: b, e)
  | c :: rest =>
    let inside := indent == 0 || m.column < indent
    if inside && c == ' ' then emptyLines indent widest m.next rest
    else if inside && c == '\t' then .error m
    else if isBreak c then
      (emptyLines indent (max widest m.column) (m.nextLine 1) rest).map fun (b, e) =>
        ((if isLastingBreak c then c else '\n') :: b, e)
    else .ok ([], max widest m.column, ⟨c :: rest, m⟩)

/-- Where reading stands between two lines: what has been read, the break after
the last line, the breaks of the empty lines after that, and whether the last
line began with a blank. -/
structure Progress where
  done : Text
  lead : Option Char
  more : Text
  blank : Bool

/-- What is to be read when a line follows. -/
def Progress.joined (p : Progress) (fold blank : Bool) : Text :=
  if fold && p.lead == some '\n' && !p.blank && !blank then
    if p.more = [] then p.done ++ [' '] else p.done ++ p.more
  else p.done ++ p.lead.toList ++ p.more

/-- What has been read when no line follows. -/
def Progress.chomped (p : Progress) : Chomp → Text
  | .strip => p.done
  | .clip => p.done ++ p.lead.toList
  | .keep => p.done ++ p.lead.toList ++ p.more

/-- Read the lines indented by `indent` columns. Every line uses up a character,
so as many lines as there are characters are enough. -/
def linesFrom (fold : Bool) (indent : Nat) (start : Mark) :
    Nat → Progress → Cursor → Except Fault (Progress × Cursor)
  | 0, p, c => .ok (p, c)
  | fuel + 1, p, c =>
    match c.peek with
    | none => .ok (p, c)
    | some d =>
      if c.mark.column ≠ indent then .ok (p, c)
      else
        let blank := isBlank d
        let (line, c) := c.takeWhile (!isBreak ·)
        let done := p.joined fold blank ++ line
        let (lead, c) :=
          match c.break? with
          | some (b, c) => (some b, c)
          | none => (none, c)
        match emptyLines indent 0 c.mark c.rest with
        | .error m => failed .tabAsIndentation m .blockScalar start
        | .ok (more, _, c) => linesFrom fold indent start fuel ⟨done, lead, more, blank⟩ c

/-- The block scalar at a cursor, in a collection indented by `outer` columns,
none at all when it is `none`. -/
def read (fold : Bool) (outer : Option Nat) (c : Cursor) : Except Fault (Text × Cursor) :=
  let start := c.mark
  match header start (c.skip 1) with
  | .error f => .error f
  | .ok (ch, columns, c) =>
    let c := c.skipComment
    if !(c.peek.all isBreak) then failed .noLineEnd c.mark .blockScalar start
    else
      let c := c.skipBreak
      let given := if columns = 0 then 0 else outer.getD 0 + columns
      match emptyLines given 0 c.mark c.rest with
      | .error m => failed .tabAsIndentation m .blockScalar start
      | .ok (more, widest, c) =>
        let least := (outer.map (· + 1)).getD 0
        let indent := if given = 0 then max (max widest least) 1 else given
        match linesFrom fold indent start (c.rest.length + 1) ⟨[], none, more, false⟩ c with
        | .error f => .error f
        | .ok (p, c) => .ok (p.chomped ch, c)

end Block

end Yaml

end ScriptedTemplate
