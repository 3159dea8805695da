import ScriptedTemplate.Decimal.Reader
import ScriptedTemplate.Yaml.Node

/-
  What scalars mean

  A plain scalar is null, a truth value, a whole number, a float or a string; it
  is the first of these whose form it has. Whole numbers have at most 128 bits,
  are decimal or begin with 0x, 0o or 0b, and a decimal with needless zeros in
  front is a string. Quoted and block scalars are strings. A tag of the core
  schema asks for one kind, and a scalar that cannot be of it is refused.
-/

namespace ScriptedTemplate

namespace Yaml

/-- What a scalar means. -/
inductive Sense where
  | null
  | bool (b : Bool)
  | int (n : Int)
  | float (x : Float)
  | string (t : Text)

/-- The kinds that a tag can ask for. -/
inductive Core where
  | bool
  | int
  | float
  | null
  deriving DecidableEq, Repr

namespace Core

/-- The name of a kind among the tags of the core schema. -/
def name : Core → String
  | bool => "bool"
  | int => "int"
  | float => "float"
  | null => "null"

def tag (k : Core) : Text := ("tag:yaml.org,2002:" ++ k.name).toList

def ofTag? (t : Text) : Option Core := [bool, int, float, null].find? fun k => k.tag == t

end Core

/-- Whether a text is a spelling of null. -/
def isNull (t : Text) : Bool := ["null", "Null", "NULL", "~"].any fun s => s.toList == t

def bool? (t : Text) : Option Bool :=
  if ["true", "True", "TRUE"].any fun s => s.toList == t then some true
  else if ["false", "False", "FALSE"].any fun s => s.toList == t then some false
  else none

def unsigned : Text → Text
  | '+' :: t => t
  | '-' :: t => t
  | t => t

/-- Whether a text is a decimal with needless zeros in front. -/
def hasLeadingZero (t : Text) : Bool :=
  match unsigned t with
  | '0' :: rest => rest ≠ [] && rest.all Char.isDigit
  | _ => false

/-- The number that some digits stand for, of which there is at least one. -/
def number? (base : Nat) (t : Text) : Option Nat := if t = [] then none else Text.digits? base t

/-- The number that digits after a base mark stand for. -/
def based? : Text → Option Nat
  | '0' :: 'x' :: t => number? 16 t
  | '0' :: 'o' :: t => number? 8 t
  | '0' :: 'b' :: t => number? 2 t
  | _ => none

def int? (t : Text) : Option Int :=
  let magnitude (u : Text) : Option Nat :=
    (based? u).or (if hasLeadingZero t then none else number? 10 u)
  match t with
  | '-' :: u => (magnitude u).bind fun n => if n ≤ twoTo 127 then some (-(n : Int)) else none
  | '+' :: u => (magnitude u).bind fun n => if n < twoTo 128 then some (n : Int) else none
  | u => (magnitude u).bind fun n => if n < twoTo 128 then some (n : Int) else none

/-- The natural number of at most 64 bits that a text spells; a minus sign is not for
these, even before a zero. -/
def count? (t : Text) : Option Nat :=
  (int? t).bind fun n => if t.head? != some '-' && n < twoTo 64 then some n.toNat else none

def infinity : Float := 1.0 / 0.0

def notANumber : Float := 0.0 / 0.0

/-- The float that a text spells; a decimal beyond all doubles spells none. -/
def float? (t : Text) : Option Float :=
  let body :=
    match t with
    | '+' :: u => u
    | u => u
  let isOneOf (words : List String) (t : Text) : Bool := words.any fun s => s.toList == t
  if isOneOf [".inf", ".Inf", ".INF"] body then some infinity
  else if isOneOf ["-.inf", "-.Inf", "-.INF"] t then some (-infinity)
  else if isOneOf [".nan", ".NaN", ".NAN"] t then some notANumber
  else if t.head? == some '+' && body.head?.any fun c => c == '+' || c == '-' then none
  else (Decimal.float? body).filter Float.isFinite

/-- What a plain scalar without tag means. -/
def plainSense (t : Text) : Sense :=
  if t = [] || isNull t then .null
  else
    match bool? t, int? t, (if hasLeadingZero t then none else float? t) with
    | some b, _, _ => .bool b
    | none, some n, _ => .int n
    | none, none, some x => .float x
    | none, none, none => .string t

/-- What a text means as one kind. -/
def Core.sense? (k : Core) (t : Text) : Option Sense :=
  match k with
  | .bool => (bool? t).map .bool
  | .int => (int? t).map .int
  | .float => (float? t).map .float
  | .null => if isNull t then some .null else none

namespace Scalar

/-- Whether a tag is one of the document's own. -/
def isOwnTag (t : Text) : Bool := t.head? == some '!'

/-- What a scalar means; the answer without meaning is the kind that its tag asks
for. -/
def sense (s : Scalar) : Except Core Sense :=
  let untagged := if s.style == .plain then plainSense s.content else .string s.content
  match s.tag with
  | none => .ok untagged
  | some t =>
    match Core.ofTag? t with
    | some k =>
      match k.sense? s.content with
      | some v => .ok v
      | none => .error k
    | none => .ok (if isOwnTag t then untagged else .string s.content)

end Scalar

end Yaml

end ScriptedTemplate
