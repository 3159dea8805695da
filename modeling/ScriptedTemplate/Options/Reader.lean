import ScriptedTemplate.Failure
import ScriptedTemplate.Options.Basic

/-
  Reading options

  A document with options is a mapping; one that is empty asks for nothing. Keys
  that name no option are passed over with their values, and no option can be
  given twice. A marker is the text of any scalar, whatever it means.
-/

namespace ScriptedTemplate

namespace Settings

open Yaml

/-- Refuse an option that is given again. -/
def once {α : Type} (name : Text) (whole : Yaml.Mark) (known : Option α) : Extract Unit :=
  if known.isSome then throw (.duplicateField name ⟨[], whole⟩) else pure ()

/-- The settings after one more entry of a mapping. -/
def readEntry (d : Document) (whole : Yaml.Mark) (s : Settings) (e : Yaml.Node × Yaml.Node) :
    Extract Settings := do
  let name ← Extract.text d .fieldName [] e.1
  let path := Extract.valuePath [] e.1
  let word : Extract Text := Extract.text d .string path e.2
  match String.ofList name with
  | "code_begin" => once name whole s.codeBegin; return { s with codeBegin := some (← word) }
  | "code_end" => once name whole s.codeEnd; return { s with codeEnd := some (← word) }
  | "output_begin" => once name whole s.outputBegin; return { s with outputBegin := some (← word) }
  | "output_end" => once name whole s.outputEnd; return { s with outputEnd := some (← word) }
  | "trim_after_code" =>
    once name whole s.trimAfterCode
    return { s with trimAfterCode := some (← Extract.bool d path e.2) }
  | "debug_len" =>
    once name whole s.contextWidth
    return { s with contextWidth := some (← Extract.count d path e.2) }
  | _ =>
    Extract.ignore e.2
    return s

def readDocument (d : Document) : Extract Settings := do
  match d.root with
  | none => return .nothing
  | some n =>
    match n with
    | .mapping m _ entries => entries.foldlM (readEntry d m) .nothing
    | .scalar _ ⟨[], .plain, _⟩ => return .nothing
    | n => Extract.refuseNode n .options []

/-- The settings that a YAML text asks for. -/
def ofYaml (t : Text) : Except Yaml.Error Settings := Extract.fromText readDocument t

end Settings

/-- The options that a YAML text asks for. -/
def Options.ofYaml (t : Text) : Except Failure Options :=
  match Settings.ofYaml t with
  | .ok s => .ok s.options
  | .error e => .error (.options (.document e))

end ScriptedTemplate
