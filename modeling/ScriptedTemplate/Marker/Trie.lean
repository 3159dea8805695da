import ScriptedTemplate.Marker.Basic

/-
  The marker trie — four words in one shared graph

  Nodes live in a list and are named by their place in it; node 0 is the root.
  Entering a word walks the edges that are there and grows the ones that are
  not, so words with a common beginning share nodes. A node at which a word ends
  is claimed by that word's marker.

  What a set of words must satisfy is checked on the way: no word is empty, no
  word ends on a claimed node (`clash`), and in the finished trie no claimed
  node has an edge (`blocks`: a word that is the beginning of another would be
  seen first every time). The last check goes over the nodes in the order in
  which they were made, and that order decides which word is named.
-/

namespace ScriptedTemplate

/-- A node: its edges in the order in which they were grown, and the marker
whose word ends here. -/
structure Node where
  edges : List (Char × Nat) := []
  marker : Option Marker := none
  deriving DecidableEq, Repr

/-- A node with no edge and no claim. -/
def Node.fresh : Node where

def Node.next (n : Node) (c : Char) : Option Nat :=
  (n.edges.find? fun e => e.1 == c).map (·.2)

/-- Nodes, each named by its place; the root comes first. -/
structure Trie where
  nodes : List Node
  deriving DecidableEq, Repr

namespace Trie

def root : Nat := 0

/-- The trie of no words: the root alone. -/
def empty : Trie := ⟨[.fresh]⟩

def size (t : Trie) : Nat := t.nodes.length

/-- The edge from node `s` for a character. -/
def next (t : Trie) (s : Nat) (c : Char) : Option Nat :=
  t.nodes[s]?.bind (·.next c)

/-- The marker whose word ends on node `s`. -/
def marker (t : Trie) (s : Nat) : Option Marker :=
  t.nodes[s]?.bind (·.marker)

/-- A fresh node, reached from `s` by `c`. -/
def grow (t : Trie) (s : Nat) (c : Char) : Trie :=
  ⟨t.nodes.modify s (fun n => { n with edges := n.edges ++ [(c, t.size)] }) ++ [.fresh]⟩

/-- Enter a word from node `s` on; the answer is the trie and the node at which
the word ends. -/
def enter (t : Trie) (s : Nat) : Text → Trie × Nat
  | [] => (t, s)
  | c :: w =>
    match t.next s c with
    | some n => t.enter n w
    | none => (t.grow s c).enter t.size w

/-- Claim node `s` for a marker. -/
def claim (t : Trie) (s : Nat) (m : Marker) : Trie :=
  ⟨t.nodes.modify s fun n => { n with marker := some m }⟩

/-- Walk a word from node `s`. -/
def walk (t : Trie) (s : Nat) : Text → Option Nat
  | [] => some s
  | c :: w => (t.next s c).bind fun n => t.walk n w

end Trie

/-- Why four words cannot serve as markers. -/
inductive MarkerError where
  /-- The word of this marker is empty. -/
  | empty (m : Marker)
  /-- Two markers have this word. -/
  | clash (word : Text)
  /-- Another marker's word goes on where this one ends. -/
  | blocks (word : Text)
  deriving DecidableEq, Repr

namespace MarkerError

def message : MarkerError → String
  | empty m => "Marker \"" ++ m.name ++ "\" must not be empty"
  | clash w => "Marker clash on \"" ++ String.ofList w ++ "\""
  | blocks w => "Marker \"" ++ String.ofList w ++ "\" blocks other markers"

end MarkerError

namespace Trie

/-- Enter the word of one marker and claim its last node. -/
def insert (t : Trie) (m : Marker) (w : Text) : Except MarkerError Trie :=
  if w = [] then .error (.empty m)
  else
    let (t', s) := t.enter root w
    if (t'.marker s).isSome then .error (.clash w) else .ok (t'.claim s m)

def insertAll (t : Trie) : List (Marker × Text) → Except MarkerError Trie
  | [] => .ok t
  | (m, w) :: rest =>
    match t.insert m w with
    | .ok t' => t'.insertAll rest
    | .error e => .error e

/-- The first claimed node, in the order of making, that has an edge. -/
def blocker? (t : Trie) : Option Marker :=
  t.nodes.findSome? fun n => if n.edges.isEmpty then none else n.marker

end Trie

/-- A marker set together with its trie. -/
structure Recognizer where
  markers : MarkerSet
  trie : Trie
  deriving DecidableEq, Repr

namespace Recognizer

/-- The recognizer of a marker set, or the reason why there is none. -/
def build (ms : MarkerSet) : Except MarkerError Recognizer :=
  match Trie.empty.insertAll ms.entries with
  | .error e => .error e
  | .ok t =>
    match t.blocker? with
    | some m => .error (.blocks (ms.word m))
    | none => .ok ⟨ms, t⟩

def word (r : Recognizer) (m : Marker) : Text := r.markers.word m

end Recognizer

end ScriptedTemplate
