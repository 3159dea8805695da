import ScriptedTemplate.Text.Basic

/-
  Values — what programs compute with

  A value is plain data, or a handle to something that lives outside the value:
  a callable, a namespace, a loop. Whole numbers are exact and have no width.
  A map keeps its entries in the order of their keys (`Value.order`), one entry
  a key. An iterator is a finite sequence of which only the order of the items
  matters; if it is sized, the number of its items is known beforehand, and then
  it prints like a sequence.

  A container has an identity, which tells it apart from others with the same
  contents; one that has just been made has none yet. Nothing but the question
  whether two values are one and the same depends on it.
-/

namespace ScriptedTemplate

/-- What a value is, as messages name it; values of different kinds are ordered
by their kinds, in the order given here. -/
inductive Kind where
  | undefined
  | none
  | bool
  | number
  | string
  | bytes
  | sequence
  | map
  | iterator
  | object
  | invalid
  deriving DecidableEq, Repr

namespace Kind

def name : Kind → String
  | undefined => "undefined"
  | none => "none"
  | bool => "bool"
  | number => "number"
  | string => "string"
  | bytes => "bytes"
  | sequence => "sequence"
  | map => "map"
  | iterator => "iterator"
  | object => "plain object"
  | invalid => "invalid value"

/-- The place of a kind in the order of kinds. -/
def rank : Kind → Nat
  | undefined => 0
  | none => 1
  | bool => 2
  | number => 3
  | string => 4
  | bytes => 5
  | sequence => 6
  | map => 7
  | iterator => 8
  | object => 9
  | invalid => 10

end Kind

/-- Something outside the values that a value can refer to. -/
inductive Handle where
  /-- The callable that appends to an output buffer. -/
  | sink (buffer : Nat)
  /-- A function that every program can call. -/
  | builtin (name : String)
  /-- A function of the program that embeds the library. -/
  | host (name : String)
  /-- A callable piece of the running program, and its name there. -/
  | routine (id : Nat) (name : String)
  /-- A set of names whose values can be changed. -/
  | space (id : Nat)
  /-- A running loop. -/
  | loop (id : Nat)
  deriving DecidableEq, Repr

def Handle.display : Handle → Text
  | .builtin name => "<function ".toList ++ name.toList ++ ['>']
  | .host name => "<function ".toList ++ name.toList ++ ['>']
  | .sink _ => "<function output>".toList
  | .routine _ name => "<macro ".toList ++ name.toList ++ ['>']
  | .space _ => "\x7b\x7d".toList
  | .loop _ => "<loop>".toList

/-- What a map is for. -/
inductive MapRole where
  | plain
  /-- It holds the keyword arguments of a call. -/
  | keywords
  /-- It holds what a namespace holds at some moment. -/
  | space (id : Nat)
  /-- It holds what is known about a loop that has done so many of its turns, of
  which the number may be known. -/
  | loop (id done : Nat) (turns : Option Nat)
  deriving DecidableEq, Repr

/-- A value. -/
inductive Value where
  /-- The value of a name that has none; a silent one may be printed. -/
  | undefined (silent : Bool)
  | none
  | bool (b : Bool)
  | int (n : Int)
  | float (x : Float)
  /-- A string; a safe one needs no escaping. -/
  | string (s : String) (safe : Bool)
  | bytes (bs : List UInt8)
  | seq (items : List Value) (id : Option Nat)
  | iterator (items : List Value) (sized : Bool) (id : Option Nat)
  /-- A key and the items that have it; a sequence of these two. -/
  | group (key : Value) (members : List Value) (id : Option Nat)
  | map (entries : List (Value × Value)) (role : MapRole) (id : Option Nat)
  | object (h : Handle)
  /-- A value that could not be made, because of an invalid operation. -/
  | invalid (reason : String)

namespace Value

instance : Inhabited Value := ⟨.undefined false⟩

def ofText (t : Text) : Value := string (String.ofList t) false

def ofString (s : String) : Value := string s false

def ofNat (n : Nat) : Value := int n

def ofItems (items : List Value) : Value := seq items Option.none

def ofStream (items : List Value) : Value := iterator items true Option.none

def ofMap (entries : List (Value × Value)) : Value := map entries .plain Option.none

def routineMembers : List String := ["name", "arguments", "caller"]

/-- What a value is. A namespace counts as a map, and so does a loop. -/
def kind : Value → Kind
  | undefined _ => .undefined
  | none => .none
  | bool _ => .bool
  | int _ => .number
  | float _ => .number
  | string _ _ => .string
  | bytes _ => .bytes
  | seq _ _ => .sequence
  | iterator _ _ _ => .iterator
  | group _ _ _ => .sequence
  | map _ _ _ => .map
  | object (.space _) => .map
  | object (.loop _) => .map
  | object _ => .object
  | invalid _ => .invalid

/-- Whether the value is undefined, silent or not. -/
def isUndefined : Value → Bool
  | undefined _ => true
  | _ => false

def isNone : Value → Bool
  | none => true
  | _ => false

def text? : Value → Option Text
  | string s _ => some s.toList
  | _ => Option.none

/-- Whether the value counts as true: not zero, not known to be empty, not
nothing. -/
def isTrue : Value → Bool
  | undefined _ => false
  | none => false
  | bool b => b
  | int n => n != 0
  | float x => x != 0.0
  | string s _ => !s.isEmpty
  | bytes bs => !bs.isEmpty
  | seq items _ => !items.isEmpty
  | iterator items sized _ => !sized || !items.isEmpty
  | group _ _ _ => true
  | map entries _ _ => !entries.isEmpty
  | object _ => true
  | invalid _ => false

def items? : Value → Option (List Value)
  | seq items _ => some items
  | iterator items _ _ => some items
  | group key members _ => some [key, ofStream members]
  | _ => Option.none

/-- The entries of a map. What a namespace or a loop holds is known to the running
program only, so the bare handle of one has no entries. -/
def mapEntries : Value → List (Value × Value)
  | map entries _ _ => entries
  | _ => []

/-- Whether the number of items is known before the items are. -/
def isSized : Value → Bool
  | iterator _ sized _ => sized
  | _ => true

end Value

end ScriptedTemplate
