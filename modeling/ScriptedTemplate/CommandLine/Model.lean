import ScriptedTemplate.Json.Data
import ScriptedTemplate.Json.Reader
import ScriptedTemplate.Yaml.Data

/-
  Models — the data of a run, from a file

  A file whose name ends in `.json` holds JSON, every other one YAML. The
  document is an object or null, and an object's field `$schema` is put aside.
-/

namespace ScriptedTemplate

namespace CommandLine

/-- Why a text is not a model. -/
inductive ModelFault where
  | json (e : JsonError)
  | yaml (e : Yaml.Error)
  | notObject
  deriving DecidableEq, Repr

/-- The data of a run, and the schema that was put aside. -/
structure Model where
  fields : List (String × Json)
  schema : Option Json

namespace Model

def schemaField : String := "$schema"

def empty : Model := ⟨[], none⟩

/-- The model that a document is. -/
def ofDocument? : Json → Option Model
  | .object fields => some ⟨Json.dropField schemaField fields, Json.field? schemaField fields⟩
  | .null => some empty
  | _ => none

/-- The document in a text. -/
def document (isJson : Bool) (t : Text) : Except ModelFault Json :=
  if isJson then (Json.parse t).mapError .json else (Yaml.toJson t).mapError .yaml

def ofText (isJson : Bool) (t : Text) : Except ModelFault Model :=
  match document isJson t with
  | .error f => .error f
  | .ok j =>
    match ofDocument? j with
    | some m => .ok m
    | none => .error .notObject

def value (m : Model) : Value := (Json.object m.fields).toValue

end Model

end CommandLine

end ScriptedTemplate
