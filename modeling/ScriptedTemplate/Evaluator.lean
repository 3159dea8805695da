import ScriptedTemplate.Script.Evaluate
import ScriptedTemplate.Slice.Basic

/-
  Evaluators — what executes programs

  An evaluator is given a program, bindings and the output buffers. It writes
  through the sink among the bindings and either succeeds or fails with a
  message; what it has written stays written.

  There are two here. `Evaluator.ofScripts` runs the program as a script.
  `Evaluator.ofPerformance` does what it is told for every program: it writes
  some arguments and then succeeds or fails.
-/

namespace ScriptedTemplate

/-- Something that executes programs. -/
structure Evaluator where
  evaluate : Text → Bindings → Buffers → Except String Unit × Buffers

/-- What an evaluator does with a program: the argument lists with which it
calls the sink, and the message with which it fails in the end. -/
structure Performance where
  calls : List (List Value)
  failure : Option String

namespace Evaluator

/-- The evaluator that runs programs as scripts. -/
def ofScripts (h : Host) : Evaluator where
  evaluate program b buffers :=
    match Script.evaluate h program b buffers with
    | (.ok _, buffers) => (.ok (), buffers)
    | (.error f, buffers) => (.error f.message, buffers)

/-- The buffer that the sink among the bindings writes to. -/
def sinkOf (b : Bindings) : Option Nat :=
  match b.get? sinkName with
  | some (.object (.sink i)) => some i
  | _ => none

/-- The buffers after calls of a sink; a call that fails changes nothing. -/
def writeAll (buffers : Buffers) (i : Nat) (calls : List (List Value)) : Buffers :=
  calls.foldl (fun b args => (b.call i args).2) buffers

/-- The evaluator that does what it is told. -/
def ofPerformance (perform : Text → Bindings → Performance) : Evaluator where
  evaluate program b buffers :=
    let p := perform program b
    let written :=
      match sinkOf b with
      | some i => writeAll buffers i p.calls
      | none => buffers
    match p.failure with
    | none => (.ok (), written)
    | some message => (.error message, written)

end Evaluator

end ScriptedTemplate
