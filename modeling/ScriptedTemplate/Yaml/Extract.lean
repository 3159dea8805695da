import ScriptedTemplate.Decimal.Layout
import ScriptedTemplate.Text.Quoted
import ScriptedTemplate.Yaml.Reader
import ScriptedTemplate.Yaml.Schema

/-
  Extracting what a document should hold

  Who reads a document asks each node for a kind of thing. A node of another kind
  is refused, and the message says what was found, what was expected, the way
  from the root to the node, and the node's place. Aliases are followed, but at
  most a hundred times as often as the document is large.
-/

namespace ScriptedTemplate

namespace Yaml

/-- A step from a collection into it. -/
inductive Step where
  | field (name : Text)
  | item (index : Nat)
  /-- To the value of a key that is no scalar. -/
  | unnamed
  deriving DecidableEq, Repr

/-- A way from the root to a node. -/
abbrev Path := List Step

/-- A way as messages give it; the empty one is a point. -/
def Path.text (p : Path) : Text :=
  (p.foldl (fun (way : Option Text) s =>
    let stem := (way.map (· ++ ['.'])).getD []
    match s with
    | .field name => some (stem ++ name)
    | .item i => some (way.getD ['.'] ++ '[' :: Nat.toDigits 10 i ++ [']'])
    | .unnamed => some (stem ++ ['?'])) none).getD ['.']

/-- Where a node is. -/
structure Location where
  path : Path
  mark : Mark
  deriving DecidableEq, Repr

/-- What a node turned out to be; a float is given by its text. -/
inductive Found where
  | null
  | bool (b : Bool)
  | int (n : Int)
  | float (shown : Text)
  | string (t : Text)
  | sequence
  | mapping
  /-- A node with a tag of the document's own. -/
  | tagged
  deriving DecidableEq, Repr

namespace Found

def ofSense : Sense → Found
  | .null => null
  | .bool b => bool b
  | .int n => int n
  | .float x => float (NumberLayout.positional.text x)
  | .string t => string t

/-- The wording of what was found; whole numbers of more than 64 bits are marked
as such. -/
def text : Found → String
  | null => "unit value"
  | bool b => "boolean \x60" ++ toString b ++ "\x60"
  | int n =>
    "integer \x60" ++ toString n ++ "\x60" ++
      (if twoTo 64 ≤ n then " as u128" else if n < -(twoTo 63) then " as i128" else "")
  | float shown => "floating point \x60" ++ String.ofList shown ++ "\x60"
  | string t => "string " ++ String.ofList t.quoted
  | sequence => "sequence"
  | mapping => "map"
  | tagged => "enum"

end Found

/-- What was asked for. -/
inductive Expected where
  | core (k : Core)
  | string
  | fieldName
  | jsonKey
  | jsonValue
  | count
  | options
  deriving DecidableEq, Repr

def Expected.text : Expected → String
  | core .bool => "a boolean"
  | core .int => "an integer"
  | core .float => "a float"
  | core .null => "null"
  | string => "a string"
  | fieldName => "field identifier"
  | jsonKey => "a string key"
  | jsonValue => "any valid JSON value"
  | count => "usize"
  | options => "struct Options"

/-- Why a document does not hold what it should. -/
inductive Error where
  | broken (b : Break)
  | wrongKind (found : Found) (expected : Expected) (at_ : Location)
  /-- A text that is not of the kind that its tag asks for. -/
  | wrongText (t : Text) (k : Core) (at_ : Location)
  | duplicateField (name : Text) (at_ : Location)
  | numberOutOfRange (at_ : Location)
  | tooDeep (m : Mark)
  | tooManyAliases
  | severalDocuments
  deriving DecidableEq, Repr

namespace Error

/-- A message about a node. -/
def about (l : Location) (what : String) : String :=
  (if l.path = [] then "" else String.ofList l.path.text ++ ": ") ++ what ++ l.mark.suffix

def message : Error → String
  | broken b => b.message
  | wrongKind found expected l =>
    about l ("invalid type: " ++ found.text ++ ", expected " ++ expected.text)
  | wrongText t k l =>
    about l ("invalid value: " ++ (Found.string t).text ++ ", expected " ++ (Expected.core k).text)
  | duplicateField name l => about l ("duplicate field \x60" ++ String.ofList name ++ "\x60")
  | numberOutOfRange l => about l "JSON number out of range"
  | tooDeep m => "recursion limit exceeded" ++ m.suffix
  | tooManyAliases => "repetition limit exceeded"
  | severalDocuments =>
    "deserializing from YAML containing more than one document is not supported"

end Error

/-- Extracting something from a document; the number counts the aliases that
have been followed. -/
abbrev Extract (α : Type) := StateT Nat (Except Error) α

namespace Extract

/-- The node itself, or the one it is an alias of. -/
def follow (d : Document) (n : Node) : Extract Node := do
  match n with
  | .broken b => throw (.broken b)
  | .reference _ number =>
    let k ← get
    if 100 * (d.root.map Node.size).getD 0 < k + 1 then throw .tooManyAliases
    set (k + 1)
    return (d.anchor? number).getD n
  | _ => return n

def refuse {α : Type} (s : Scalar) (e : Expected) (l : Location) : Extract α :=
  match s.sense with
  | .ok v => throw (.wrongKind (.ofSense v) e l)
  | .error k => throw (.wrongText s.content k l)

/-- The refusal of a node that is not even a scalar. -/
def refuseNode {α : Type} (n : Node) (e : Expected) (p : Path) : Extract α :=
  match n with
  | .scalar m s => refuse s e ⟨p, m⟩
  | .reference m _ => throw (.broken (.unknownAnchor m))
  | .sequence m _ _ => throw (.wrongKind .sequence e ⟨p, m⟩)
  | .mapping m _ _ => throw (.wrongKind .mapping e ⟨p, m⟩)
  | .broken b => throw (.broken b)

/-- The text of a scalar, whatever it means. -/
def text (d : Document) (e : Expected) (p : Path) (n : Node) : Extract Text := do
  match ← follow d n with
  | .scalar _ s => return s.content
  | n => refuseNode n e p

/-- What a scalar spells by a reader of its own; only plain scalars, and literal
ones with the kind's tag, can spell anything but strings. -/
def spelled {α : Type} (d : Document) (k : Core) (read : Text → Option α) (e : Expected)
    (p : Path) (n : Node) : Extract α := do
  match ← follow d n with
  | .scalar m s =>
    let readable := s.style == .plain || (s.style == .literal && s.tag == some k.tag)
    match if readable then read s.content else none with
    | some a => return a
    | none => refuse s e ⟨p, m⟩
  | n => refuseNode n e p

def bool (d : Document) : Path → Node → Extract Bool := spelled d .bool bool? (.core .bool)

/-- A natural number of at most 64 bits. -/
def count (d : Document) : Path → Node → Extract Nat := spelled d .int count? .count

def ignore (n : Node) : Extract Unit :=
  match n.firstBreak? with
  | some b => throw (.broken b)
  | none => pure ()

/-- The path to the value of a key. -/
def valuePath (p : Path) : Node → Path
  | .scalar _ s => p ++ [.field s.content]
  | _ => p ++ [.unnamed]

/-- Extract from the only document of a text. -/
def fromText {α : Type} (read : Document → Extract α) (t : Text) : Except Error α :=
  let d := document t
  match (read d).run 0 with
  | .error e => .error e
  | .ok (a, _) =>
    match d.trouble with
    | some b => .error (.broken b)
    | none => if d.continues then .error .severalDocuments else .ok a

end Extract

end Yaml

end ScriptedTemplate
