import ScriptedTemplate.Marker.Detector
import ScriptedTemplate.Slice.Mode

/-
  Slicing — from a template to its slices

  A template is divided at its markers, and the markers are followed through the
  modes. When every marker is in place and the last one closes a region, each
  piece becomes a slice of the mode it was read in. Otherwise the first marker
  out of place is reported, or the region that was never closed, each with the
  marker and some characters on both sides of it.
-/

namespace ScriptedTemplate

/-- A marker and what stands around it. -/
structure Context where
  lead : Text
  word : Text
  trail : Text
  deriving DecidableEq, Repr

namespace Context

/-- The surroundings of a word between two texts, `width` characters on each
side. -/
def around (width : Nat) (before word behind : Text) : Context :=
  ⟨before.last width, word, behind.first width⟩

/-- The context as it is shown; an empty side is left out with its arrow. -/
def display (c : Context) : Text :=
  (if c.lead = [] then [] else c.lead ++ " >>> ".toList) ++ c.word
    ++ (if c.trail = [] then [] else " <<< ".toList ++ c.trail)

end Context

/-- Why a template cannot be sliced. -/
inductive SliceError where
  /-- A marker that has no place in the mode it was found in. -/
  | unexpected (c : Context)
  /-- The template ends inside a region; the marker is the one that opened it. -/
  | unclosed (c : Context)
  deriving DecidableEq, Repr

namespace SliceError

def context : SliceError → Context
  | unexpected c => c
  | unclosed c => c

def message : SliceError → String
  | unexpected c =>
    "Unexpected \"" ++ String.ofList c.word ++ "\" marker: \"" ++ String.ofList c.display ++ "\""
  | unclosed c => "Marker not closed: \"" ++ String.ofList c.display ++ "\""

end SliceError

/-- A recognizer, and how many characters of context its errors show. -/
structure Slicer where
  recognizer : Recognizer
  width : Nat
  deriving DecidableEq, Repr

namespace Slicer

/-- The text of pieces that were read one after the other, the last one
first. -/
def textOf (pieces : List Text) : Text := pieces.reverse.flatten

/-- Follow the cuts from a mode on. `before` holds the pieces that precede the
last accepted marker, the last one first, and `mark` is that marker, so what has
been read is `textOf before ++ mark`. -/
def follow (s : Slicer) (mode : Mode) (before : List Text) (mark : Text) :
    List Cut → Text → Except SliceError (List Slice)
  | [], tail =>
    if mode = .text then .ok [.ofText tail]
    else .error (.unclosed (.around s.width (textOf before) mark tail))
  | c :: cs, tail =>
    let word := s.recognizer.word c.marker
    let upTo := c.raw :: mark :: before
    match mode.after c.marker with
    | none =>
      .error (.unexpected (.around s.width (textOf upTo) word (s.recognizer.rejoin cs tail)))
    | some next =>
      match s.follow next upTo word cs tail with
      | .ok rest => .ok (mode.slice c.raw :: rest)
      | .error e => .error e

/-- The slices of a template: texts and regions by turns, a text first and a
text last. -/
def slice (s : Slicer) (template : Text) : Except SliceError (List Slice) :=
  let d := s.recognizer.cut template
  s.follow .text [] [] d.cuts d.tail

/-- An accepted marker: its word, the byte offset at which it starts, and the
modes it leads between. -/
structure Sighting where
  word : Text
  offset : Nat
  origin : Mode
  target : Mode
  deriving DecidableEq, Repr

/-- The markers accepted from a mode on, up to the first one out of place;
`offset` is the number of bytes read so far. -/
def sightingsFrom (s : Slicer) (mode : Mode) (offset : Nat) : List Cut → List Sighting
  | [] => []
  | c :: cs =>
    let word := s.recognizer.word c.marker
    let start := offset + c.raw.bytes
    match mode.after c.marker with
    | none => []
    | some next => ⟨word, start, mode, next⟩ :: s.sightingsFrom next (start + word.bytes) cs

/-- The markers that slicing a template accepts. -/
def sightings (s : Slicer) (template : Text) : List Sighting :=
  s.sightingsFrom .text 0 (s.recognizer.cut template).cuts

end Slicer

end ScriptedTemplate
