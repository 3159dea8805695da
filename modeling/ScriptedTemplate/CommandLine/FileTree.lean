import ScriptedTemplate.CommandLine.Files

/-
  File trees — a file system in memory

  A file has a place, the names that lead to it from the root. Directories are
  there as far as files lie in them, and so is the one in which the command line
  starts. A path is followed name by name, a point staying where one is and two
  points leading back; it begins at the root if a slash does.
-/

namespace ScriptedTemplate

namespace CommandLine

/-- Files at their places, and the place where relative paths begin. -/
structure FileTree where
  files : List (List String × ByteArray)
  start : List String

namespace FileTree

def at? (t : FileTree) (place : List String) : Option ByteArray :=
  (t.files.find? (·.1 == place)).map (·.2)

def isDirectory (t : FileTree) (place : List String) : Bool :=
  place.isPrefixOf t.start ||
    t.files.any fun f => place.isPrefixOf f.1 && place.length < f.1.length

/-- The place that a name leads to from a directory. -/
def next (place : List String) (n : String) : List String :=
  if n == ".." then place.dropLast else place ++ [n]

/-- Follow names from a directory on; only the last one need not be there. -/
def followFrom (t : FileTree) (place : List String) : List String → Except FileFault (List String)
  | [] => .ok place
  | n :: ns =>
    if 255 < n.utf8ByteSize then .error .nameTooLong
    else if ns = [] || t.isDirectory (next place n) then followFrom t (next place n) ns
    else if (t.at? (next place n)).isSome then .error .notDirectory
    else .error .missing

/-- The place that a path leads to, which need not be there. -/
def follow (t : FileTree) (path : String) : Except FileFault (List String) :=
  if path == "" then .error .missing
  else t.followFrom (if path.toList.head? == some '/' then [] else t.start) (names path).1

def read (t : FileTree) (path : String) : Except FileFault ByteArray :=
  match t.follow path with
  | .error e => .error e
  | .ok place =>
    match t.at? place with
    | some b => if (names path).2 then .error .notDirectory else .ok b
    | none => .error (if t.isDirectory place then .isDirectory else .missing)

/-- The tree with new bytes at a place. -/
def put (t : FileTree) (place : List String) (b : ByteArray) : FileTree where
  files :=
    if (t.at? place).isSome then t.files.map fun f => if f.1 == place then (place, b) else f
    else t.files ++ [(place, b)]
  start := t.start

/-- Put bytes where a path leads, if that can be a file. -/
def store (t : FileTree) (path : String) (b : ByteArray) : Except FileFault Unit × FileTree :=
  match t.follow path with
  | .error e => (.error e, t)
  | .ok place =>
    if (names path).2 || t.isDirectory place then (.error .isDirectory, t)
    else (.ok (), t.put place b)

def system : FileSystem FileTree where
  read := read
  create t path := t.store path .empty
  fill := store

end FileTree

end CommandLine

end ScriptedTemplate
