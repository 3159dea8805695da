import ScriptedTemplate.Value.Basic
import ScriptedTemplate.Text.Octets
import ScriptedTemplate.Text.Quoted
import ScriptedTemplate.Decimal.Layout

/-
  The text of a value

  Printed by itself a string is bare and a float is written out in full; inside
  a container a string is quoted and a very large or very small float gets an
  exponent. Truth values and none are written with a capital. The items of an
  iterator are shown only if it is sized.
-/

namespace ScriptedTemplate

namespace Value

/-- The text of what is known about a loop. -/
def loopText (done : Nat) (turns : Option Nat) : Text :=
  "<loop ".toList ++ Nat.toDigits 10 done ++ ['/'] ++ (turns.map (Nat.toDigits 10)).getD ['?']
    ++ ['>']

/-- A byte of a byte string as it is shown between quotes. -/
def byteText (b : UInt8) : Text :=
  if b = 34 then ['"']
  else if b = 9 then ['\\', 't']
  else if b = 10 then ['\\', 'n']
  else if b = 13 then ['\\', 'r']
  else if b = 39 then ['\\', Char.ofNat 39]
  else if b = 92 then ['\\', '\\']
  else if 32 ≤ b && b < 127 then [Char.ofNat b.toNat]
  else ['\\', 'x', Nat.digitChar (b.toNat / 16), Nat.digitChar (b.toNat % 16)]

mutual

/-- The text of a value inside a container. -/
def inner : Value → Text
  | undefined _ => "undefined".toList
  | none => "None".toList
  | bool b => if b then "True".toList else "False".toList
  | int n => (toString n).toList
  | float x => NumberLayout.compact.text x
  | string s _ => Text.quoted s.toList
  | bytes bs => "b\x27".toList ++ bs.flatMap byteText ++ [Char.ofNat 39]
  | seq items _ => '[' :: innerItems items ++ [']']
  | iterator items sized _ =>
    if sized then '[' :: innerItems items ++ [']'] else "<iterator>".toList
  | group key members _ => '[' :: inner key ++ ", [".toList ++ innerItems members ++ "]]".toList
  | map _ (.loop _ done turns) _ => loopText done turns
  | map entries _ _ => '{' :: innerEntries entries ++ ['}']
  | object h => h.display
  | invalid reason => "<invalid value: invalid operation: ".toList ++ reason.toList ++ ['>']
termination_by structural v => v

def innerItems : List Value → Text
  | [] => []
  | v :: vs =>
    match vs with
    | [] => inner v
    | _ :: _ => inner v ++ [',', ' '] ++ innerItems vs
termination_by structural vs => vs

/-- The texts of map entries, commas between them. -/
def innerEntries : List (Value × Value) → Text
  | [] => []
  | e :: es =>
    match es with
    | [] => innerEntry e
    | _ :: _ => innerEntry e ++ [',', ' '] ++ innerEntries es
termination_by structural es => es

def innerEntry : Value × Value → Text
  | (k, v) => inner k ++ [':', ' '] ++ inner v
termination_by structural e => e

end

/-- The text of a value by itself. -/
def display : Value → Text
  | undefined _ => []
  | float x => NumberLayout.positional.text x
  | string s _ => s.toList
  | bytes bs => Octets.text bs
  | v => inner v

/-- The text of a value by itself, as a string. -/
def displayString (v : Value) : String := String.ofList v.display

end Value

end ScriptedTemplate
