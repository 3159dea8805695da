import ScriptedTemplate.Json.Basic
import ScriptedTemplate.Yaml.Extract

/-
  YAML documents as JSON documents

  The keys of a mapping are scalars, and each is its text whatever that means;
  of two entries with one key the later counts. A float that is no number or
  infinite becomes null, a whole number of more than 64 bits is refused, and so
  is a node with a tag of the document's own. Collections can stand inside each
  other 128 deep. No document at all is null.
-/

namespace ScriptedTemplate

namespace Yaml

def Sense.json (l : Location) : Sense → Except Error Json
  | .null => .ok .null
  | .bool b => .ok (.bool b)
  | .int n =>
    if n < -(twoTo 63) || twoTo 64 ≤ n then .error (.numberOutOfRange l) else .ok (.int n)
  | .float x => .ok (if x.isFinite then .float x else .null)
  | .string t => .ok (.string (String.ofList t))

namespace Extract

def checkTag (tag : Option Text) (l : Location) : Extract Unit :=
  if tag.any Scalar.isOwnTag then throw (.wrongKind .tagged .jsonValue l) else pure ()

/-- A node as a JSON document, with collections at most `depth` deep. -/
def json (d : Document) : Nat → Path → Node → Extract Json
  | depth, p, n => do
    match ← follow d n with
    | .scalar m s =>
      checkTag s.tag ⟨p, m⟩
      match s.sense with
      | .error k => throw (.wrongText s.content k ⟨p, m⟩)
      | .ok v =>
        match v.json ⟨p, m⟩ with
        | .ok j => return j
        | .error e => throw e
    | .sequence m tag items =>
      checkTag tag ⟨p, m⟩
      match depth with
      | 0 => throw (.tooDeep m)
      | deeper + 1 =>
        return .array (← items.zipIdx.mapM fun x => json d deeper (p ++ [.item x.2]) x.1)
    | .mapping m tag entries =>
      checkTag tag ⟨p, m⟩
      match depth with
      | 0 => throw (.tooDeep m)
      | deeper + 1 =>
        let fields ← entries.zipIdx.foldlM (fun fields (e, i) => do
          let name ← text d (if i = 0 then .jsonKey else .string) p e.1
          let v ← json d deeper (valuePath p e.1) e.2
          return Json.insertField (String.ofList name) v fields) []
        return .object fields
    | n => refuseNode n .jsonValue p

end Extract

/-- How many collections may stand inside each other. -/
def maxDepth : Nat := 128

def toJson (t : Text) : Except Error Json :=
  Extract.fromText (fun d =>
    match d.root with
    | none => return .null
    | some n => Extract.json d maxDepth [] n) t

end Yaml

end ScriptedTemplate
