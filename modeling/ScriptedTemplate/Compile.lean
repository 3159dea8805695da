import ScriptedTemplate.Failure
import ScriptedTemplate.Options.Basic
import ScriptedTemplate.Program

/-
  Compiling — from a template to its program

  The options are checked first, so an error in them is the same for every
  template. Then the template is sliced and its slices are assembled.
-/

namespace ScriptedTemplate

/-- Refuse options that cannot be used, whatever the markers are. -/
def Options.check (o : Options) : Except Failure Unit :=
  if o.isUsable then .ok () else .error (.options .noContext)

/-- The slicer that the options ask for. -/
def Options.slicer (o : Options) : Except Failure Slicer :=
  match o.check with
  | .error f => .error f
  | .ok () =>
    match Recognizer.build o.markers with
    | .ok r => .ok ⟨r, o.contextWidth⟩
    | .error e => .error (.options (.markers e))

namespace Program

def compile (template : Text) (o : Options) : Except Failure Program :=
  match o.slicer with
  | .error f => .error f
  | .ok s =>
    match s.slice template with
    | .error e => .error (.slicing e)
    | .ok slices => .ok (assemble slices o.trimAfterCode)

end Program

end ScriptedTemplate
