import ScriptedTemplate.Marker.Trie

/-
  Detection — one pointer into the trie

  The detector holds one node. It follows the edge of each character; where
  there is none it goes back to the root and tries the same character once more
  from there. The characters of an abandoned beginning are never looked at
  again: with the word `aab` nothing is seen in `aaab`.

  `hits` lists the markers seen in a text with the place of their last
  character; `cut` divides the text at them and keeps every character.
-/

namespace ScriptedTemplate

namespace Recognizer

/-- Read one character on node `s`: the node after it, and the marker that ends
with it. -/
def feed (r : Recognizer) (s : Nat) (c : Char) : Nat × Option Marker :=
  let from_ := if s ≠ Trie.root ∧ (r.trie.next s c).isNone then Trie.root else s
  match r.trie.next from_ c with
  | some n => (n, r.trie.marker n)
  | none => (from_, none)

/-- The markers seen while reading on from node `s`, each with the place of its
last character; `i` is the place of the first character read. -/
def hitsFrom (r : Recognizer) (s i : Nat) : Text → List (Nat × Marker)
  | [] => []
  | c :: t =>
    match r.feed s c with
    | (s', some m) => (i, m) :: r.hitsFrom s' (i + 1) t
    | (s', none) => r.hitsFrom s' (i + 1) t

/-- The markers seen in a text. -/
def hits (r : Recognizer) (t : Text) : List (Nat × Marker) := r.hitsFrom Trie.root 0 t

/-- The node reached by reading on from node `s`. -/
def stateFrom (r : Recognizer) (s : Nat) : Text → Nat
  | [] => s
  | c :: t => r.stateFrom (r.feed s c).1 t

end Recognizer

/-- A piece of a template and the marker that ends it. -/
structure Cut where
  raw : Text
  marker : Marker
  deriving DecidableEq, Repr

/-- A text divided at its markers: the pieces that a marker ends, and what
stands after the last of them. -/
structure Division where
  cuts : List Cut
  tail : Text
  deriving DecidableEq, Repr

/-- A division with one more cut in front. -/
def Division.cons (c : Cut) (d : Division) : Division := ⟨c :: d.cuts, d.tail⟩

namespace Recognizer

/-- Divide what is left of a text, reading on from node `s`; `piece` holds the
characters read since the last marker, the newest first. -/
def cutFrom (r : Recognizer) (s : Nat) (piece : Text) : Text → Division
  | [] => ⟨[], piece.reverse⟩
  | c :: t =>
    match r.feed s c with
    | (s', none) => r.cutFrom s' (c :: piece) t
    | (s', some m) =>
      (r.cutFrom s' [] t).cons ⟨((c :: piece).drop (r.word m).length).reverse, m⟩

/-- Divide a text at its markers. -/
def cut (r : Recognizer) (t : Text) : Division := r.cutFrom Trie.root [] t

/-- The text of a division: every piece followed by the word that ended it. -/
def rejoin (r : Recognizer) : List Cut → Text → Text
  | [], tail => tail
  | c :: cs, tail => c.raw ++ r.word c.marker ++ r.rejoin cs tail

end Recognizer

end ScriptedTemplate
