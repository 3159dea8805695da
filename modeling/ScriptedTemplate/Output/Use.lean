import ScriptedTemplate.Output.Buffers

/-
  Sinks in use — one buffer and all that have a hand in it

  A sink is made with a buffer of its own. Its clones and the value that programs
  call are further handles to the place of that buffer, so whichever of them is
  used, it is the one buffer that is written or taken from.
-/

namespace ScriptedTemplate

namespace Buffers

/-- What can be done with a sink, its clones and its callable value. -/
inductive Use where
  | push (t : Text)
  /-- Push through a clone. -/
  | clonePush (t : Text)
  /-- Call the value that was made at the start. -/
  | call (args : List Value)
  /-- Take the output by a clone, which is used up. -/
  | take

/-- What a use comes to. -/
inductive Reply where
  | done
  | called (r : Except Cause Value)
  | taken (t : Text)

def use (b : Buffers) (i : Nat) : Use → Reply × Buffers
  | .push t => (.done, b.push i t)
  | .clonePush t => (.done, b.push i t)
  | .call args =>
    let (r, b) := b.call i args
    (.called r, b)
  | .take =>
    let (t, b) := b.take i
    (.taken t, b)

/-- Use the sink of a buffer many times. -/
def useAll (b : Buffers) (i : Nat) : List Use → List Reply × Buffers
  | [] => ([], b)
  | u :: us =>
    let (reply, b) := b.use i u
    let (replies, b) := b.useAll i us
    (reply :: replies, b)

def useSink (b : Buffers) (us : List Use) : List Reply × Buffers :=
  let (b, i) := b.fresh
  b.useAll i us

end Buffers

end ScriptedTemplate
