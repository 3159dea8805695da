import ScriptedTemplate.CommandLine.Arguments
import ScriptedTemplate.CommandLine.Files
import ScriptedTemplate.CommandLine.Log
import ScriptedTemplate.CommandLine.Model
import ScriptedTemplate.Generator
import ScriptedTemplate.Json.Printer
import ScriptedTemplate.Options.Reader

/-
  Runs of the command line

  The stages of a run are the config, the template, compiling, the data, the
  program and the output; the first that fails ends the run. All of the output
  is known before any of it is written, so a run that fails writes nothing. Flags
  lie over the config. The data is not looked at when the program itself is
  asked for.
-/

namespace ScriptedTemplate

namespace CommandLine

/-- The files that a run reads. -/
inductive Source where
  | config
  | template
  | data
  deriving DecidableEq, Repr

def Source.name : Source → String
  | config => "config"
  | template => "template"
  | data => "data"

/-- Why a run fails. -/
inductive RunError where
  | unreadable (s : Source) (path : String) (f : FileFault)
  | library (f : Failure)
  | model (path : String) (f : ModelFault)
  | unwritable (path : String) (f : FileFault)
  deriving DecidableEq, Repr

def RunError.message : RunError → String
  | unreadable s path f => "failed to read " ++ s.name ++ " " ++ path ++ ": " ++ f.message
  | library f => f.message
  | model path (.json e) => "invalid JSON in " ++ path ++ ": " ++ e.message
  | model path (.yaml e) => "invalid YAML in " ++ path ++ ": " ++ e.message
  | model _ .notObject => "data model must be a mapping at the top level"
  | unwritable path f => "failed to write " ++ path ++ ": " ++ f.message

/-- What reading the file at a path comes to. -/
abbrev Reads := String → Except FileFault ByteArray

def Reads.text (r : Reads) (s : Source) (path : String) : Except RunError Text :=
  match r path with
  | .error f => .error (.unreadable s path f)
  | .ok b =>
    match textOf b with
    | .error f => .error (.unreadable s path f)
    | .ok t => .ok t

namespace Invocation

/-- The settings in the config; without one nothing is asked. -/
def configured (i : Invocation) (r : Reads) : Except RunError Settings :=
  match i.config with
  | none => .ok .nothing
  | some path =>
    match r.text .config path with
    | .error e => .error e
    | .ok t =>
      match Settings.ofYaml t with
      | .error e => .error (.library (.options (.document e)))
      | .ok s => .ok s

def options (i : Invocation) (r : Reads) : Except RunError Options :=
  (i.configured r).map fun s => (i.flags.above s).options

/-- The template and the options to compile it with. -/
def job (i : Invocation) (r : Reads) : Except RunError (Options × Text) :=
  match i.options r with
  | .error e => .error e
  | .ok o => (r.text .template i.template).map fun t => (o, t)

def generator (i : Invocation) (r : Reads) : Except RunError Generator :=
  match i.job r with
  | .error e => .error e
  | .ok (o, t) => (Generator.compile t o).mapError .library

/-- The data of the run. -/
def model (i : Invocation) (r : Reads) : Except RunError Model :=
  match i.data with
  | none => .ok .empty
  | some path =>
    match r.text .data path with
    | .error e => .error e
    | .ok t => (Model.ofText (suffix? path == some "json") t).mapError (.model path)

/-- What running a compiled template on data puts out. -/
def rendered (g : Generator) (m : Model) : Except RunError Text :=
  (g.run (.ofScripts .bare) m.value .empty).1.mapError .library

/-- What is put out: the program itself, or what it puts out for the data. -/
def produce (i : Invocation) (r : Reads) : Except RunError Text :=
  match i.generator r with
  | .error e => .error e
  | .ok g =>
    if i.emitProgram then .ok g.program.source
    else
      match i.model r with
      | .error e => .error e
      | .ok m => rendered g m

def compileEvents (o : Options) (t : Text) : List Event :=
  match o.slicer with
  | .error _ => []
  | .ok s =>
    (s.sightings t).map .marker ++
      match s.slice t with
      | .error _ => []
      | .ok slices =>
        [.compiled t.bytes slices.length (Program.assemble slices o.trimAfterCode).fragments]

/-- What running a compiled template on data tells, given what it puts out. -/
def runEvents (g : Generator) (m : Model) (result : Except RunError Text) : List Event :=
  (m.schema.map fun j => Event.schemaIgnored j.text).toList ++
    (match Generator.dataEntries m.value with
      | .error _ => []
      | .ok entries => [.running (g.bindings entries .none).names]) ++
    match result with
    | .error _ => []
    | .ok t => [.finished t.bytes]

/-- The paths of the files that may be read. -/
def sources (i : Invocation) : List String :=
  i.config.toList ++ i.template :: (if i.emitProgram then [] else i.data.toList)

/-- What a run tells before it writes, given what it puts out. -/
def events (i : Invocation) (r : Reads) (result : Except RunError Text) : List Event :=
  (match i.job r with
    | .error _ => []
    | .ok (o, t) => compileEvents o t) ++
    match i.generator r with
    | .error _ => []
    | .ok g =>
      .compiledFile i.template g.program.fragments ::
        if i.emitProgram then []
        else
          match i.model r with
          | .error _ => []
          | .ok m => runEvents g m result

end Invocation

/-- The last thing that a run does. -/
inductive Ending where
  | print (t : Text)
  | save (path : String) (t : Text)
  | fail (e : RunError)

/-- How a run ends, given what it puts out. -/
def Invocation.ending (i : Invocation) : Except RunError Text → Ending
  | .error e => .fail e
  | .ok t =>
    match i.output with
    | none => .print t
    | some path => .save path t

/-- What a run comes to: the exit status, what it prints, what it tells, the
error it reports, and the files afterwards. -/
structure Outcome (σ : Type) where
  status : Nat
  printed : Text
  events : List Event
  error : Option RunError
  files : σ

/-- Run the command line on files; what is printed can always be printed. -/
def Invocation.run {σ : Type} (disk : FileSystem σ) (i : Invocation) (s : σ) : Outcome σ :=
  let reads : Reads := disk.read s
  let result := i.produce reads
  let told := i.events reads result
  match i.ending result with
  | .fail e => ⟨1, [], told, some e, s⟩
  | .print t => ⟨0, t, told, none, s⟩
  | .save path t =>
    match disk.write s path (bytesOf t) with
    | (.error f, after) => ⟨1, [], told, some (.unwritable path f), after⟩
    | (.ok (), after) => ⟨0, [], told ++ [.wrote path t.bytes], none, after⟩

/-- The lines of what is told at a verbosity. -/
def logLines (verbosity : Nat) (told : List Event) : List Text :=
  (told.filter (·.isShown verbosity)).map Event.line

def RunError.report (e : RunError) : String := "error: " ++ e.message ++ "\n"

end CommandLine

end ScriptedTemplate
