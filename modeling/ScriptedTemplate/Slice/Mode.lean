import ScriptedTemplate.Marker.Basic
import ScriptedTemplate.Slice.Basic

/-
  Modes — where a template is between two markers

  A template starts in text. The opening marker of a region leads from text into
  the region, its closing marker back; every other marker is out of place.
-/

namespace ScriptedTemplate

/-- What the characters being read belong to. -/
inductive Mode where
  | text
  | code
  | output
  deriving DecidableEq, Repr

namespace Mode

/-- The mode that a marker leads to, if it has a place in this mode. -/
def after : Mode → Marker → Option Mode
  | text, .codeBegin => some code
  | text, .outputBegin => some output
  | code, .codeEnd => some text
  | output, .outputEnd => some text
  | _, _ => none

/-- The slice of a piece read in this mode. -/
def slice : Mode → Text → Slice
  | text, raw => .ofText raw
  | code, raw => .ofCode raw
  | output, raw => .ofOutput raw

/-- The name of a mode in log lines. -/
def name : Mode → String
  | text => "Text"
  | code => "Code"
  | output => "Output"

end Mode

end ScriptedTemplate
