import ScriptedTemplate.Text.Basic

/-
  JSON documents

  A document is a tree of arrays and objects over strings, numbers, truth values
  and null. A number is a whole number when it was written as one and fits 64
  bits, and a double otherwise. The fields of an object are kept in the order of
  their names, one field a name: of two fields with one name the later counts.
-/

namespace ScriptedTemplate

/-- A JSON document. -/
inductive Json where
  | null
  | bool (b : Bool)
  | int (n : Int)
  | float (x : Float)
  | string (s : String)
  | array (items : List Json)
  | object (fields : List (String × Json))

namespace Json

instance : Inhabited Json := ⟨null⟩

/-- Put a field among others, in the order of names; a field of that name is
replaced. -/
def insertField (name : String) (v : Json) : List (String × Json) → List (String × Json)
  | [] => [(name, v)]
  | (other, w) :: rest =>
    if name < other then (name, v) :: (other, w) :: rest
    else if name = other then (other, v) :: rest
    else (other, w) :: insertField name v rest

def field? (name : String) (fields : List (String × Json)) : Option Json :=
  (fields.find? fun f => f.1 == name).map (·.2)

/-- The fields of an object without the one of this name. -/
def dropField (name : String) (fields : List (String × Json)) : List (String × Json) :=
  fields.filter fun f => f.1 != name

end Json

/-- Why a text is not a JSON document. -/
inductive JsonFault where
  | endInList
  | endInObject
  | endInString
  | endInValue
  | wantsColon
  | wantsListEnd
  | wantsObjectEnd
  | badWord
  | wantsValue
  | badEscape
  | badNumber
  | numberTooLarge
  | controlCharacter
  | keyNotString
  | loneSurrogate
  | brokenPair
  | trailingComma
  | trailingCharacters
  | tooDeep
  deriving DecidableEq, Repr

namespace JsonFault

def message : JsonFault → String
  | endInList => "EOF while parsing a list"
  | endInObject => "EOF while parsing an object"
  | endInString => "EOF while parsing a string"
  | endInValue => "EOF while parsing a value"
  | wantsColon => "expected \x60:\x60"
  | wantsListEnd => "expected \x60,\x60 or \x60]\x60"
  | wantsObjectEnd => "expected \x60,\x60 or \x60\x7d\x60"
  | badWord => "expected ident"
  | wantsValue => "expected value"
  | badEscape => "invalid escape"
  | badNumber => "invalid number"
  | numberTooLarge => "number out of range"
  | controlCharacter => "control character (\\u0000-\\u001F) found while parsing a string"
  | keyNotString => "key must be a string"
  | loneSurrogate => "lone leading surrogate in hex escape"
  | brokenPair => "unexpected end of hex escape"
  | trailingComma => "trailing comma"
  | trailingCharacters => "trailing characters"
  | tooDeep => "recursion limit exceeded"

end JsonFault

/-- Why a text is not a JSON document, and where that shows: the line, counted
from 1, and the number of bytes before it in that line. -/
structure JsonError where
  fault : JsonFault
  line : Nat
  column : Nat
  deriving DecidableEq, Repr

/-- The wording of an error, with its place. -/
def JsonError.message (e : JsonError) : String :=
  e.fault.message ++ " at line " ++ toString e.line ++ " column " ++ toString e.column

end ScriptedTemplate
