import ScriptedTemplate.Marker.Trie
import ScriptedTemplate.Slice.Slicer
import ScriptedTemplate.Value.Basic
import ScriptedTemplate.Yaml.Extract

/-
  Failures — what can go wrong from template to output

  A failure belongs to one of three stages: the options cannot be used, the
  template cannot be sliced, or the run of its program does not succeed.
-/

namespace ScriptedTemplate

/-- Why options cannot be used. -/
inductive OptionsFault where
  /-- Errors would show no context. -/
  | noContext
  /-- The markers cannot be told apart. -/
  | markers (e : MarkerError)
  /-- The document that holds the options cannot be read. -/
  | document (e : Yaml.Error)
  deriving DecidableEq, Repr

def OptionsFault.message : OptionsFault → String
  | noContext => "debugLen option must be >= 1"
  | markers e => e.message
  | document e => "invalid options: " ++ e.message

/-- Why a run has no output. -/
inductive RunFault where
  /-- The data has no names to bind. -/
  | notMapping (k : Kind)
  /-- The evaluator gave up, for this reason. -/
  | evaluation (reason : String)
  deriving DecidableEq, Repr

def RunFault.message : RunFault → String
  | notMapping k => "run data must be a mapping, got " ++ k.name
  | evaluation reason => reason

/-- Why there is no output, by stage. -/
inductive Failure where
  | options (f : OptionsFault)
  | slicing (e : SliceError)
  | run (f : RunFault)
  deriving DecidableEq, Repr

def Failure.message : Failure → String
  | options f => f.message
  | slicing e => e.message
  | run f => f.message

end ScriptedTemplate
