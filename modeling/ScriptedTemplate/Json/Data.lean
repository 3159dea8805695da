import ScriptedTemplate.Json.Basic
import ScriptedTemplate.Value.Order

/-
  Documents as values

  An array becomes a sequence and an object a map with string keys.
-/

namespace ScriptedTemplate

namespace Json

mutual

def toValue : Json → Value
  | null => .none
  | bool b => .bool b
  | int n => .int n
  | float x => .float x
  | string s => .string s false
  | array items => .ofItems (toValues items)
  | object fields => .ofMap (Value.ofEntries (toEntries fields))
termination_by structural v => v

def toValues : List Json → List Value
  | [] => []
  | v :: vs => toValue v :: toValues vs
termination_by structural vs => vs

def toEntries : List (String × Json) → List (Value × Value)
  | [] => []
  | f :: fs => toEntry f :: toEntries fs
termination_by structural fs => fs

def toEntry : String × Json → Value × Value
  | (name, v) => (.string name false, toValue v)
termination_by structural f => f

end

end Json

end ScriptedTemplate
