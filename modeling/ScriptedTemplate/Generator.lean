import ScriptedTemplate.Compile
import ScriptedTemplate.Evaluator

/-
  Generators — a template compiled once and run many times

  A run binds the globals, then the data, then its own sink; a later binding of
  a name replaces an earlier one. The output is what the run has written to its
  sink, and a run that fails has none. Only registering a global changes a
  generator.
-/

namespace ScriptedTemplate

/-- A compiled template and its globals. -/
structure Generator where
  program : Program
  globals : Bindings

namespace Generator

def compile (template : Text) (o : Options) : Except Failure Generator :=
  match Program.compile template o with
  | .ok p => .ok ⟨p, []⟩
  | .error f => .error f

def register (g : Generator) (s : String) (v : Value) : Generator :=
  { g with globals := g.globals.insert s v }

/-- The names that data binds: the text of every key of a map, in the order of
the keys. Nothing binds no names, and data of another kind cannot be bound. -/
def dataEntries (data : Value) : Except RunFault (List (String × Value)) :=
  match data.kind with
  | .undefined => .ok []
  | .none => .ok []
  | .map => .ok (data.mapEntries.map fun e => (e.1.displayString, e.2))
  | k => .error (.notMapping k)

/-- The bindings of a run: the globals, the data, and the sink. -/
def bindings (g : Generator) (data : List (String × Value)) (sink : Value) : Bindings :=
  (g.globals.insertAll data).insert sinkName sink

def run (e : Evaluator) (g : Generator) (data : Value) (buffers : Buffers) :
    Except Failure Text × Buffers :=
  match dataEntries data with
  | .error f => (.error (.run f), buffers)
  | .ok entries =>
    let (buffers, i) := buffers.fresh
    match e.evaluate g.program.source (g.bindings entries (.object (.sink i))) buffers with
    | (.error message, buffers) => (.error (.run (.evaluation message)), buffers)
    | (.ok (), buffers) =>
      let (t, buffers) := buffers.take i
      (.ok t, buffers)

end Generator

end ScriptedTemplate
