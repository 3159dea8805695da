import ScriptedTemplate.Slice.Slicer

/-
  Slicing by offsets — one pass over the characters, pieces cut out by place

  The template is read character by character, each with the byte offset at which it
  stands. What is kept is a node of the trie, the mode, the offset behind the last
  accepted marker and the width of that marker; every piece and every context is cut
  out of the template between two offsets. Nothing here is total: a node outside of
  the arena, a difference below zero and an offset that is not between characters
  have no answer, and neither has a slicing that comes upon one.
-/

namespace ScriptedTemplate

/-- The difference of two offsets, unless the second is the larger one. -/
def minus? (i j : Nat) : Option Nat := if j ≤ i then some (i - j) else none

namespace Text

/-- The characters of a text, each with the offset at which it stands; the first
stands at `i`. -/
def placedFrom (i : Nat) : Text → List (Nat × Char)
  | [] => []
  | c :: t => (i, c) :: placedFrom (i + c.utf8Size) t

/-- The first `n` characters, cut off where the next one stands. -/
def leading? (n : Nat) (t : Text) : Option Text :=
  match (placedFrom 0 t)[n]? with
  | some (i, _) => t.before? i
  | none => some t

/-- The last `n` characters, cut off where the first of them stands. -/
def trailing? (n : Nat) (t : Text) : Option Text :=
  if n = 0 then some []
  else
    match (placedFrom 0 t).reverse[n - 1]? with
    | some (i, _) => t.after? i
    | none => some t

end Text

/-- Read one character on node `s`; there is no answer when a node that is looked up
is not in the arena. -/
def Recognizer.feed? (r : Recognizer) (s : Nat) (c : Char) : Option (Nat × Option Marker) := do
  let held ← r.trie.nodes[s]?
  let from_ := if s ≠ Trie.root ∧ (held.next c).isNone then Trie.root else s
  let held ← r.trie.nodes[from_]?
  match held.next c with
  | some n => do
    let reached ← r.trie.nodes[n]?
    some (n, reached.marker)
  | none => some (from_, none)

/-- What is kept while a template is read: the node of the detector, the mode, the
offset behind the last accepted marker and the width of that marker, and the slices
so far. -/
structure Progress where
  node : Nat
  mode : Mode
  emitted : Nat
  lastWidth : Nat
  slices : List Slice
  deriving DecidableEq, Repr

def Progress.start : Progress := ⟨Trie.root, .text, 0, 0, []⟩

namespace Slicer

/-- The marker of some width that ends at an offset, and what stands around it. -/
def context? (s : Slicer) (input : Text) (stop width : Nat) : Option Context := do
  let start ← minus? stop width
  let lead ← (← input.before? start).trailing? s.width
  let trail ← (← input.after? stop).leading? s.width
  let word ← input.cut? start stop
  some ⟨lead, word, trail⟩

/-- Read the character that stands at an offset. -/
def advance? (s : Slicer) (input : Text) (p : Progress) (i : Nat) (c : Char) :
    Option (Except SliceError Progress) := do
  let (node, seen) ← s.recognizer.feed? p.node c
  match seen with
  | none => some (.ok { p with node })
  | some m =>
    let stop := i + c.utf8Size
    let width := (s.recognizer.word m).bytes
    match p.mode.after m with
    | none => do
      let context ← s.context? input stop width
      some (.error (.unexpected context))
    | some next => do
      let start ← minus? stop width
      let raw ← input.cut? p.emitted start
      some (.ok ⟨node, next, stop, width, p.slices ++ [p.mode.slice raw]⟩)

/-- Read characters with their offsets, up to the first marker out of place. -/
def advanceAll? (s : Slicer) (input : Text) (p : Progress) :
    List (Nat × Char) → Option (Except SliceError Progress)
  | [] => some (.ok p)
  | (i, c) :: rest => do
    match ← s.advance? input p i c with
    | .ok p => s.advanceAll? input p rest
    | .error e => some (.error e)

/-- The slices when the whole template has been read. -/
def finish? (s : Slicer) (input : Text) (p : Progress) : Option (Except SliceError (List Slice)) :=
  if p.mode = .text then do
    let tail ← input.after? p.emitted
    some (.ok (p.slices ++ [.ofText tail]))
  else do
    let context ← s.context? input p.emitted p.lastWidth
    some (.error (.unclosed context))

/-- The slices of a template, cut out by offsets. -/
def sliceByOffsets? (s : Slicer) (input : Text) : Option (Except SliceError (List Slice)) := do
  match ← s.advanceAll? input .start (input.placedFrom 0) with
  | .ok p => s.finish? input p
  | .error e => some (.error e)

end Slicer

end ScriptedTemplate
