import ScriptedTemplate.Slice.Slicer
import ScriptedTemplate.Text.Edit
import ScriptedTemplate.Text.Quoted

/-
  The log — what a run tells about itself

  An event has a level, a message and fields. Warnings are always shown, the
  other levels one after the other with each degree of verbosity.
-/

namespace ScriptedTemplate

namespace CommandLine

/-- How much an event matters. -/
inductive Level where
  | warn
  | info
  | debug
  | trace
  deriving DecidableEq, Repr

namespace Level

def name : Level → String
  | warn => "WARN"
  | info => "INFO"
  | debug => "DEBUG"
  | trace => "TRACE"

/-- The least verbosity at which a level is shown. -/
def verbosity : Level → Nat
  | warn => 0
  | info => 1
  | debug => 2
  | trace => 3

end Level

/-- Something that is told. -/
structure Event where
  level : Level
  message : String
  fields : List (String × Text)
  deriving DecidableEq, Repr

namespace Event

def line (e : Event) : Text :=
  e.level.name.toList ++ ' ' :: e.message.toList ++
    e.fields.flatMap fun f => ' ' :: f.1.toList ++ '=' :: f.2

def isShown (verbosity : Nat) (e : Event) : Bool := e.level.verbosity ≤ verbosity

def count (n : Nat) : Text := (toString n).toList

def marker (s : Slicer.Sighting) : Event where
  level := .trace
  message := "marker"
  fields :=
    [("marker", s.word.quoted), ("offset", count s.offset), ("from", s.origin.name.toList),
      ("to", s.target.name.toList)]

/-- A template of so many bytes was compiled. -/
def compiled (bytes slices fragments : Nat) : Event where
  level := .debug
  message := "compiled template"
  fields :=
    [("template_len", count bytes), ("slices", count slices), ("fragments", count fragments)]

def compiledFile (path : String) (fragments : Nat) : Event where
  level := .info
  message := "compiled template"
  fields := [("template", path.toList), ("fragments", count fragments)]

/-- A schema was left out of the data. -/
def schemaIgnored (schema : Text) : Event where
  level := .warn
  message := "ignoring $schema, schema validation is not supported"
  fields := [("schema", schema)]

def running (names : List String) : Event where
  level := .debug
  message := "running program"
  fields :=
    [("bindings", '[' :: Text.joined [',', ' '] (names.map fun s => Text.quoted s.toList) ++ [']'])]

/-- A run has put out so many bytes. -/
def finished (bytes : Nat) : Event where
  level := .debug
  message := "program finished"
  fields := [("output_len", count bytes)]

/-- So many bytes were written to a file. -/
def wrote (path : String) (bytes : Nat) : Event where
  level := .info
  message := "wrote output"
  fields := [("path", path.toList), ("bytes", count bytes)]

end Event

end CommandLine

end ScriptedTemplate
