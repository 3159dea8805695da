import ScriptedTemplate.Script.Fault
import ScriptedTemplate.Value.Display

/-
  Output buffers — what runs have written

  Every run writes into a buffer of its own. Buffers are named by their place,
  and all handles with one place write into the same buffer. `call` is what a
  program does when it writes: exactly one argument, which must not be
  undefined, is appended as text.
-/

namespace ScriptedTemplate

/-- The buffers in use, each as the texts appended to it, the newest first. -/
structure Buffers where
  contents : List (List Text)
  deriving DecidableEq, Repr

namespace Buffers

def empty : Buffers := ⟨[]⟩

def text (b : Buffers) (i : Nat) : Text := (b.contents.getD i []).reverse.flatten

/-- One buffer more, and its place; nothing has been written to it. -/
def fresh (b : Buffers) : Buffers × Nat := (⟨b.contents ++ [[]]⟩, b.contents.length)

def push (b : Buffers) (i : Nat) (t : Text) : Buffers := ⟨b.contents.modify i (t :: ·)⟩

/-- Take what a buffer holds; nothing is left in it. -/
def take (b : Buffers) (i : Nat) : Text × Buffers := (b.text i, ⟨b.contents.set i []⟩)

/-- Write arguments to a buffer. The answer is an empty string, so that writing
can stand inside an expression. -/
def call (b : Buffers) (i : Nat) : List Value → Except Cause Value × Buffers
  | [] => (.error .missingArgument, b)
  | [v] =>
    if v.isUndefined then (.error .undefinedOutput, b)
    else (.ok (.string "" false), b.push i v.display)
  | _ :: _ :: _ => (.error .tooManyArguments, b)

end Buffers

end ScriptedTemplate
