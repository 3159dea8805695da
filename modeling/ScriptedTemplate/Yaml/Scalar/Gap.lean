import ScriptedTemplate.Yaml.Mark

/-
  Gaps — the space between two words of a scalar

  Within a line the blanks of a gap are kept. Once a line has ended the blanks
  around the break are gone, a single line feed is folded into a blank, and of
  several breaks all but the first are kept. A break that was escaped leaves
  nothing behind.
-/

namespace ScriptedTemplate

namespace Yaml

/-- The blanks before the first break of a gap, its breaks, and whether a break
that was escaped came before those. -/
structure Gap where
  blanks : Text
  breaks : Text
  escaped : Bool
  deriving DecidableEq, Repr

namespace Gap

def none : Gap := ⟨[], [], false⟩

/-- The space that an escaped break begins. -/
def afterEscape : Gap := ⟨[], [], true⟩

def isBroken (g : Gap) : Bool := g.escaped || !g.breaks.isEmpty

def addBlank (g : Gap) (c : Char) : Gap :=
  if g.isBroken then g else { g with blanks := g.blanks ++ [c] }

def addBreak (g : Gap) (c : Char) : Gap := { g with blanks := [], breaks := g.breaks ++ [c] }

/-- What the gap means. -/
def joined (g : Gap) : Text :=
  if g.escaped then g.breaks
  else
    match g.breaks with
    | [] => g.blanks
    | '\n' :: [] => [' ']
    | '\n' :: more => more
    | breaks => breaks

/-- Extend a gap by the space that comes next. A tab left of column `limit` at
the beginning of a line is refused. -/
def extend (limit : Nat) (g : Gap) (m : Mark) : Text → Except Mark (Gap × Cursor)
  | [] => .ok (g, ⟨[], m⟩)
  | '\r' :: '\n' :: rest => extend limit (g.addBreak '\n') (m.nextLine 2) rest
  | c :: rest =>
    if isBreak c then
      extend limit (g.addBreak (if isLastingBreak c then c else '\n')) (m.nextLine 1) rest
    else if isBlank c then
      if g.isBroken && m.column < limit && c == '\t' then .error m
      else extend limit (g.addBlank c) m.next rest
    else .ok (g, ⟨c :: rest, m⟩)

end Gap

end Yaml

end ScriptedTemplate
