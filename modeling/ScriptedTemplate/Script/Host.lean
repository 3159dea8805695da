import ScriptedTemplate.Script.Fault

/-
  Hosts — what the embedding program adds to the language

  A host offers functions, which programs call by a value that refers to them,
  and filters, which are known by name.
-/

namespace ScriptedTemplate

/-- Something callable that needs nothing but its arguments. -/
abbrev Callable := List Value → Except Cause Value

/-- The functions and filters of the embedding program, by name. -/
structure Host where
  function? : String → Option Callable
  filter? : String → Option Callable

def Host.bare : Host := ⟨fun _ => none, fun _ => none⟩

end ScriptedTemplate
