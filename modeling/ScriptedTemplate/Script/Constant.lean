import ScriptedTemplate.Script.Operation
import ScriptedTemplate.Script.Tree
import ScriptedTemplate.Value.Identity

/-
  Constants — expressions computed while a program is read

  Literals are constant, and so is what is put together from constants by
  brackets, signs and operators, as long as computing it does not fail; what
  fails is left to fail when it runs. A constant conjunction is its second part
  or false. A constant is computed once, so it is one and the same value each
  time it is used.
-/

namespace ScriptedTemplate

namespace Expr

def constant? : Expr → Option Value
  | literal v _ => some v
  | known v _ _ => some v
  | _ => none

def combine? (op : Operator) (a b : Value) : Option Value :=
  match op with
  | .and => some (if a.isTrue && b.isTrue then b else .bool false)
  | .or => some (if a.isTrue then a else b)
  | op => (Operation.apply op a b).toOption

/-- Whether comparisons of constants hold, one after the other up to the first
that does not. -/
def holds? : Value → List Comparison → Option Bool
  | _, [] => some true
  | a, .mk op negated e _ :: rest =>
    match e.constant? with
    | none => none
    | some b =>
      match (combine? op a b).map Value.isTrue with
      | none => none
      | some holds => if holds == negated then some false else holds? b rest

def entry? : Entry → Option (Value × Value)
  | .mk k v => do return (← k.constant?, ← v.constant?)

/-- The value of an expression whose parts are constants. -/
def compute? : Expr → Option Value
  | list items _ => (items.mapM constant?).map .ofItems
  | map entries _ => (entries.mapM entry?).map fun es => .ofMap (Value.ofEntries es)
  | negation e _ => e.constant?.map fun v => .bool !v.isTrue
  | opposite e _ => e.constant?.bind fun v => (Operation.opposite v).toOption
  | binary op l r _ => do combine? op (← l.constant?) (← r.constant?)
  | compared first links =>
    if links.all fun (.mk _ _ e _) => e.constant?.isSome then
      first.constant?.bind fun a => (holds? a links).map .bool
    else none
  | _ => none

end Expr

end ScriptedTemplate
