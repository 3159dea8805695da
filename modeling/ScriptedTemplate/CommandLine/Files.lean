import ScriptedTemplate.Text.Basic

/-
  Files — what the command line reads and writes

  How paths lead to files is the system's concern. A `FileSystem` says what its
  operations come to, for states of any kind: a file is read as a whole, and it is
  written by opening it, which leaves it empty, and filling it. Each of the three
  can fail in every way, and an operation that fails may have changed something.
-/

namespace ScriptedTemplate

namespace CommandLine

/-- Why a file cannot be read or written. -/
inductive FileFault where
  | missing
  | notDirectory
  | isDirectory
  | nameTooLong
  | notPermitted
  /-- What is in the file is not text. -/
  | notText
  | other (reason : String)
  deriving DecidableEq, Repr

def FileFault.message : FileFault → String
  | missing => "No such file or directory (os error 2)"
  | notDirectory => "Not a directory (os error 20)"
  | isDirectory => "Is a directory (os error 21)"
  | nameTooLong => "File name too long (os error 36)"
  | notPermitted => "Permission denied (os error 13)"
  | notText => "stream did not contain valid UTF-8"
  | other reason => reason

def textOf (b : ByteArray) : Except FileFault Text :=
  match String.fromUTF8? b with
  | some s => .ok s.toList
  | none => .error .notText

def bytesOf (t : Text) : ByteArray := (String.ofList t).toUTF8

/-- The names of a path, and whether it can only be that of a directory. -/
def names (path : String) : List String × Bool :=
  let parts := (path.toList.splitOn '/').map String.ofList
  let last := parts.getLast?.getD ""
  (parts.filter fun s => s != "" && s != ".", last == "" || last == "." || last == "..")

/-- What follows the last point of a path's last name, if a point stands inside
it. -/
def suffix? (path : String) : Option String :=
  match (names path).1.getLast? with
  | none => none
  | some last =>
    let reversed := last.toList.reverse
    let after := reversed.takeWhile (· ≠ '.')
    if last == ".." || reversed.length ≤ after.length + 1 then none
    else some (String.ofList after.reverse)

/-- The operations on files, given what files there are. -/
structure FileSystem (σ : Type) where
  read : σ → String → Except FileFault ByteArray
  /-- Open a file to be written; it is made anew if it is not there. -/
  create : σ → String → Except FileFault Unit × σ
  /-- Put all of some bytes into a file that has been opened. -/
  fill : σ → String → ByteArray → Except FileFault Unit × σ

/-- Write bytes to a file: it is opened and then filled. -/
def FileSystem.write {σ : Type} (disk : FileSystem σ) (s : σ) (path : String) (b : ByteArray) :
    Except FileFault Unit × σ :=
  match disk.create s path with
  | (.error f, after) => (.error f, after)
  | (.ok (), opened) => disk.fill opened path b

end CommandLine

end ScriptedTemplate
