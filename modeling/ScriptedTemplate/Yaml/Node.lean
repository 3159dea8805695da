import ScriptedTemplate.Yaml.Fault
import ScriptedTemplate.Yaml.Token

/-
  Nodes — what a YAML document is made of

  A node is a scalar, a sequence, a mapping, or an alias of a node that has an
  anchor. A document with a fault still has the nodes before it: where the fault
  lies there is a node `broken`, and everything that would follow is missing.
  Who never looks at a broken node never notices the fault inside it.

  Anchors are numbered by how many names there are when one is set, so that after
  a name has been set anew two names can have one number; of the nodes with a
  number the one that begins last has it.
-/

namespace ScriptedTemplate

namespace Yaml

/-- Why a document goes no further. -/
inductive Break where
  | fault (f : Fault)
  /-- An alias of a name that nothing has. -/
  | unknownAnchor (m : Mark)
  deriving DecidableEq, Repr

def Break.message : Break → String
  | fault f => f.message
  | unknownAnchor m => "unknown anchor" ++ m.suffix

/-- A scalar: its text, how it was written, and its tag. -/
structure Scalar where
  content : Text
  style : Style
  tag : Option Text
  deriving DecidableEq, Repr

/-- The scalar of a place where nothing is written. -/
def Scalar.empty : Scalar := ⟨[], .plain, none⟩

/-- A node, and where it begins. -/
inductive Node where
  | scalar (m : Mark) (s : Scalar)
  | reference (m : Mark) (number : Nat)
  | sequence (m : Mark) (tag : Option Text) (items : List Node)
  | mapping (m : Mark) (tag : Option Text) (entries : List (Node × Node))
  | broken (b : Break)

namespace Node

instance : Inhabited Node := ⟨.scalar .start .empty⟩

def mark : Node → Mark
  | scalar m _ => m
  | reference m _ => m
  | sequence m _ _ => m
  | mapping m _ _ => m
  | broken _ => .start

mutual

def firstBreak? : Node → Option Break
  | scalar _ _ => none
  | reference _ _ => none
  | sequence _ _ items => breakAmong? items
  | mapping _ _ entries => breakWithin? entries
  | broken b => some b
termination_by structural n => n

def breakAmong? : List Node → Option Break
  | [] => none
  | n :: ns => (firstBreak? n).or (breakAmong? ns)
termination_by structural ns => ns

def breakWithin? : List (Node × Node) → Option Break
  | [] => none
  | e :: es => (breakIn? e).or (breakWithin? es)
termination_by structural es => es

def breakIn? : Node × Node → Option Break
  | (k, v) => (firstBreak? k).or (firstBreak? v)
termination_by structural e => e

end

mutual

/-- The size of a node: one for a scalar or an alias, two more than its content
for a collection. -/
def size : Node → Nat
  | scalar _ _ => 1
  | reference _ _ => 1
  | sequence _ _ items => 2 + sizeAmong items
  | mapping _ _ entries => 2 + sizeWithin entries
  | broken _ => 0
termination_by structural n => n

def sizeAmong : List Node → Nat
  | [] => 0
  | n :: ns => size n + sizeAmong ns
termination_by structural ns => ns

def sizeWithin : List (Node × Node) → Nat
  | [] => 0
  | e :: es => sizeIn e + sizeWithin es
termination_by structural es => es

def sizeIn : Node × Node → Nat
  | (k, v) => size k + size v
termination_by structural e => e

end

end Node

/-- The first document of a text: its root, if there is a document at all; the
nodes with anchors by their numbers; what is wrong behind the root; and whether
the text goes on after the document. -/
structure Document where
  root : Option Node
  anchored : List (Nat × Node)
  trouble : Option Break
  continues : Bool

/-- The node that has an anchor's number. -/
def Document.anchor? (d : Document) (number : Nat) : Option Node :=
  (d.anchored.filter (·.1 == number)).foldl (fun found e =>
    match found with
    | none => some e.2
    | some n => if n.mark.index < e.2.mark.index then some e.2 else some n) none

end Yaml

end ScriptedTemplate
