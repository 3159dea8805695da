import ScriptedTemplate.Json.Basic
import ScriptedTemplate.Decimal.Layout

/-
  Writing JSON

  A document is written without space. In a string a quote, a backslash and the
  control characters are escaped, everything else stands for itself. A double
  that is no number is written as null.
-/

namespace ScriptedTemplate

namespace Json

def charText (c : Char) : Text :=
  if c = '"' then ['\\', '"']
  else if c = '\\' then ['\\', '\\']
  else if c = '\n' then ['\\', 'n']
  else if c = '\r' then ['\\', 'r']
  else if c = '\t' then ['\\', 't']
  else if c.toNat = 8 then ['\\', 'b']
  else if c.toNat = 12 then ['\\', 'f']
  else if c.toNat < 0x20 then
    "\\u00".toList ++ [Nat.digitChar (c.toNat / 16), Nat.digitChar (c.toNat % 16)]
  else [c]

def stringText (s : String) : Text := '"' :: s.toList.flatMap charText ++ ['"']

mutual

def text : Json → Text
  | null => "null".toList
  | bool b => if b then "true".toList else "false".toList
  | int n => (toString n).toList
  | float x => if x.isNaN || x.isInf then "null".toList else NumberLayout.exchange.text x
  | string s => stringText s
  | array items => '[' :: itemsText items ++ [']']
  | object fields => '{' :: fieldsText fields ++ ['}']
termination_by structural v => v

def itemsText : List Json → Text
  | [] => []
  | v :: vs =>
    match vs with
    | [] => text v
    | _ :: _ => text v ++ ',' :: itemsText vs
termination_by structural vs => vs

def fieldsText : List (String × Json) → Text
  | [] => []
  | f :: fs =>
    match fs with
    | [] => fieldText f
    | _ :: _ => fieldText f ++ ',' :: fieldsText fs
termination_by structural fs => fs

def fieldText : String × Json → Text
  | (name, v) => stringText name ++ ':' :: text v
termination_by structural f => f

end

end Json

end ScriptedTemplate
