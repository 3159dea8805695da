import ScriptedTemplate.CommandLine.Run

/-
  The program

  Files are read before the run and written after it; what happens between is
  decided elsewhere.
-/

open ScriptedTemplate ScriptedTemplate.CommandLine

/-- The fault that a failed operation on a file is. -/
def faultOf : IO.Error → FileFault
  | .noFileOrDirectory _ _ _ => .missing
  | .permissionDenied _ _ _ => .notPermitted
  | .inappropriateType _ _ _ => .isDirectory
  | e => .other (toString e)

/-- What reading a file comes to. -/
def readFile (path : String) : IO (Except FileFault ByteArray) := do
  match ← (IO.FS.readBinFile path).toBaseIO with
  | .ok b => return .ok b
  | .error e => return .error (faultOf e)

def fail (e : RunError) : IO UInt32 := do
  IO.eprint e.report
  return 1

def follow (i : Invocation) : IO UInt32 := do
  let known ← i.sources.mapM fun path => do return (path, ← readFile path)
  let reads : Reads := fun path => ((known.find? (·.1 == path)).map (·.2)).getD (.error .missing)
  let tell (told : List Event) : IO Unit :=
    (logLines i.verbosity told).forM fun t => IO.eprintln (String.ofList t)
  let result := i.produce reads
  tell (i.events reads result)
  match i.ending result with
  | .fail e => fail e
  | .print t =>
    IO.print (String.ofList t)
    return 0
  | .save path t =>
    match ← (IO.FS.writeBinFile path (bytesOf t)).toBaseIO with
    | .error e => fail (.unwritable path (faultOf e))
    | .ok () =>
      tell [.wrote path t.bytes]
      return 0

def main (arguments : List String) : IO UInt32 := do
  match parse arguments with
  | .ok i => follow i
  | .error .help =>
    IO.print helpText
    return 0
  | .error .version =>
    IO.print versionText
    return 0
  | .error (.fault f) =>
    IO.eprint f.report
    return 2
