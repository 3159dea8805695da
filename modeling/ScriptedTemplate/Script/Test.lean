import ScriptedTemplate.Script.Arguments
import ScriptedTemplate.Text.Edit
import ScriptedTemplate.Value.Identity

/-
  Tests — what can be asked of a value

  A test takes the value first and then its own arguments. Comparison tests have
  a name, and a symbol for use by name.
-/

namespace ScriptedTemplate

namespace Test

open Arguments

def filterNames : List String :=
  ["safe", "escape", "e", "lower", "upper", "title", "capitalize", "replace", "length", "count",
    "dictsort", "items", "reverse", "trim", "join", "split", "lines", "default", "d", "round",
    "abs", "int", "float", "attr", "first", "last", "min", "max", "sort", "list", "string", "bool",
    "batch", "slice", "sum", "indent", "select", "reject", "selectattr", "rejectattr", "map",
    "groupby", "unique", "chain", "zip", "format", "pprint"]

def names : List String :=
  ["undefined", "defined", "none", "safe", "escaped", "boolean", "odd", "even", "divisibleby",
    "number", "integer", "int", "float", "string", "sequence", "iterable", "mapping",
    "startingwith", "endingwith", "lower", "upper", "sameas", "eq", "equalto", "==", "ne", "!=",
    "lt", "lessthan", "<", "le", "<=", "gt", "greaterthan", ">", "ge", ">=", "in", "true", "false",
    "filter", "test"]

def one (p : Value → Bool) : Taking Bool := do return p (← value)

def two (p : Value → Value → Bool) : Taking Bool := do
  let a ← value
  let b ← value
  return p a b

/-- A test of every character of a string. -/
def ofCharacters (p : Char → Bool) : Taking Bool := do return (← taken asString).toList.all p

def ofTexts (p : Text → Text → Bool) : Taking Bool := do
  let a ← text
  let b ← text
  return p a.toList b.toList

/-- Whether a number divided by another leaves nothing. -/
def isDivisible (a b : Value) : Bool :=
  match a.exactPair? b with
  | some (.ints m n) => n != 0 && m % n == 0
  | some (.floats x y) => Binary.remainder x y == 0.0
  | _ => false

def isIn : Taking Bool := do
  let v ← value
  let container ← value
  done
  match container with
  | .undefined false => throw .undefinedValue
  | c =>
    match Operation.within v c with
    | .ok b => return b
    | .error _ => return false

/-- The test of a name; `isHostFilter` says which filters there are besides. -/
def named? (isHostFilter : String → Bool) : String → Option (Taking Bool)
  | "undefined" => some (one Value.isUndefined)
  | "defined" => some (one fun v => !v.isUndefined)
  | "none" => some (one Value.isNone)
  | "safe" | "escaped" => some (one fun
    | .string _ safe => safe
    | _ => false)
  | "boolean" => some (one fun v => v.kind == .bool)
  | "odd" => some (one fun v => v.whole?.any fun n => n % 2 != 0)
  | "even" => some (one fun v => v.whole?.any fun n => n % 2 == 0)
  | "divisibleby" => some (two isDivisible)
  | "number" => some (one fun v => v.kind == .number)
  | "integer" | "int" => some (one fun
    | .int _ => true
    | _ => false)
  | "float" => some (one fun
    | .float _ => true
    | _ => false)
  | "string" => some (one fun v => v.kind == .string)
  | "sequence" => some (one fun v => v.kind == .sequence)
  | "iterable" => some (one fun v =>
    match Operation.walk v with
    | .ok _ => true
    | .error _ => false)
  | "mapping" => some (one fun v => v.kind == .map)
  | "startingwith" => some (ofTexts fun a b => (Text.stripPrefix? b a).isSome)
  | "endingwith" => some (ofTexts fun a b => (Text.stripPrefix? b.reverse a.reverse).isSome)
  | "lower" => some (ofCharacters isSmall)
  | "upper" => some (ofCharacters isCapital)
  | "sameas" => some (two Value.isIdentical)
  | "eq" | "equalto" | "==" => some (two Value.same)
  | "ne" | "!=" => some (two fun a b => !a.same b)
  | "lt" | "lessthan" | "<" => some (two fun a b => a.order b == .lt)
  | "le" | "<=" => some (two fun a b => a.order b != .gt)
  | "gt" | "greaterthan" | ">" => some (two fun a b => a.order b == .gt)
  | "ge" | ">=" => some (two fun a b => a.order b != .lt)
  | "in" => some isIn
  | "true" => some (one fun
    | .bool b => b
    | _ => false)
  | "false" => some (one fun
    | .bool b => !b
    | _ => false)
  | "filter" => some do
    let s ← taken asString
    return filterNames.contains s || isHostFilter s
  | "test" => some do return names.contains (← taken asString)
  | _ => none

/-- What a test of this name answers for its arguments. -/
def find? (isHostFilter : String → Bool) (s : String) : Option (List Value → Except Cause Bool) :=
  (named? isHostFilter s).map all

end Test

end ScriptedTemplate
