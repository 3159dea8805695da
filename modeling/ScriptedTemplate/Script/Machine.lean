import ScriptedTemplate.Bindings
import ScriptedTemplate.Output.Buffers
import ScriptedTemplate.Script.Operation
import ScriptedTemplate.Script.Scope
import ScriptedTemplate.Value.Identity

/-
  Machines — the state of a running program

  Names are looked up in frames, the newest first. A frame belongs to a loop, to
  a scope, to a block, or to the call of a routine; it has names of its own and
  stands on the bindings of the run or on what a routine has taken along. What
  is shared and can change — namespaces, what routines have taken along, running
  loops, output buffers — is kept beside the frames and named by its place.

  How deep frames may be nested is limited; a call of a routine costs more than
  a loop.
-/

namespace ScriptedTemplate

/-- What a frame stands on. -/
inductive Ground where
  | nothing
  | bindings (b : Bindings)
  /-- What a routine has taken along. -/
  | closure (i : Nat)

/-- The names of one scope. -/
structure Frame where
  locals : Bindings := []
  ground : Ground := .nothing
  /-- The loop that the frame belongs to, and whether it goes by the name
  `loop`. -/
  loop : Option (Nat × Bool) := none
  /-- What the routines defined in this frame have taken along. -/
  closure : Option Nat := none

/-- A running loop. -/
structure Loop where
  /-- The items before the current one, the newest first. -/
  past : List Value
  current : Option Value
  future : List Value
  /-- Whether the number of items was known beforehand. -/
  sized : Bool
  depth : Nat
  /-- The arguments with which a change was last noticed. -/
  noticed : Option (List Value)
  /-- What runs again for other items when the loop is called. -/
  again : Option (Target × List Statement)

/-- A routine, with what it has taken along. -/
structure Routine where
  definition : Definition
  closure : Nat
  /-- Whether it wants to know the body of its call. -/
  wantsCaller : Bool

/-- The state of a running program. -/
structure Machine where
  buffers : Buffers
  spaces : Array (List (Value × Value)) := #[]
  closures : Array Bindings := #[]
  loops : Array Loop := #[]
  routines : Array Routine := #[]
  /-- The frames, the newest first. -/
  frames : List Frame := []
  /-- The depth at which these frames begin. -/
  depth : Nat := 0
  /-- The text shown so far, the newest piece first. -/
  written : List Text := []
  /-- Whether text is escaped for HTML. -/
  escapes : Bool := false
  /-- The block that is running. -/
  block : Option String := none
  /-- The next identity of a container. -/
  identity : Nat := 0
  /-- The blocks that can be called. -/
  blocks : List Block := []

/-- A step of a running program. -/
abbrev Run (α : Type) := ExceptT Fault (StateM Machine) α

namespace Run

/-- Fail for this cause, at a line not known yet. -/
def stop {α : Type} (c : Cause) : Run α := throw (.of c)

/-- Place a failure at this line, unless it has a place. -/
def at_ {α : Type} (line : Nat) (r : Run α) : Run α := fun m =>
  match r m with
  | (.error f, m) => (.error (f.atLine line), m)
  | done => done

/-- A step that does not change the state. -/
def lift {α : Type} (r : Except Cause α) : Run α :=
  match r with
  | .ok a => pure a
  | .error c => stop c

/-- A value of which every container has an identity. -/
def identified (v : Value) : Run Value := fun m =>
  if v.isNew then
    let (v, next) := v.identify m.identity
    (.ok v, { m with identity := next })
  else (.ok v, m)

/-- A value that is used now, which one that could not be made is not. -/
def valid (v : Value) : Run Value :=
  match v with
  | .invalid reason => stop (.invalidValue reason)
  | v => return v

def depthLimit : Nat := 500

/-- What the call of a routine costs besides its frames. -/
def routineCost : Nat := 4

def withFrame {α : Type} (f : Frame) (r : Run α) : Run α := do
  let m ← get
  if depthLimit < m.depth + m.frames.length then stop .recursionLimit
  set { m with frames := f :: m.frames }
  let a ← r
  modify fun m => { m with frames := m.frames.drop 1 }
  return a

/-- Give a name a value in the newest frame, and in what its routines have taken
along. -/
def store (s : String) (v : Value) : Run Unit := do
  let v ← identified v
  let m ← get
  match m.frames with
  | [] => return ()
  | f :: rest =>
    let closures :=
      match f.closure with
      | some i => m.closures.modify i (·.insert s v)
      | none => m.closures
    set { m with frames := { f with locals := f.locals.insert s v } :: rest, closures }

/-- The newest frame without names, for another turn of its loop. -/
def clearFrame : Run Unit := modify fun m =>
  match m.frames with
  | [] => m
  | f :: rest => { m with frames := { f with locals := [], closure := none } :: rest }

def captured (r : Run Unit) : Run Text := do
  let before := (← get).written
  modify fun m => { m with written := [] }
  r
  let m ← get
  set { m with written := before }
  return m.written.reverse.flatten

def write (t : Text) : Run Unit := modify fun m => { m with written := t :: m.written }

/-- The string value of a captured text; where text is escaped it needs no more
escaping. -/
def capturedValue (r : Run Unit) : Run Value := do
  let t ← captured r
  return .string (String.ofList t) (← get).escapes

end Run

/-- The functions that every program can call. -/
def builtinNames : List String := ["range", "dict", "namespace", "debug", "raise"]

namespace Machine

/-- The value of a name in a frame. -/
def lookupIn (m : Machine) (s : String) (f : Frame) : Option Value :=
  match f.locals.get? s with
  | some v => some v
  | none =>
    match f.loop with
    | some (i, true) => if s = "loop" then some (.object (.loop i)) else onGround f.ground
    | _ => onGround f.ground
where
  /-- The value of the name in what a frame stands on. -/
  onGround : Ground → Option Value
    | .nothing => none
    | .bindings b => b.get? s
    | .closure i => (m.closures[i]?).bind (·.get? s)

def lookup (m : Machine) (s : String) : Option Value :=
  match m.frames.findSome? (m.lookupIn s) with
  | some v => some v
  | none => if builtinNames.contains s then some (.object (.builtin s)) else none

def currentLoop? (m : Machine) : Option Nat := (m.frames.findSome? (·.loop)).map Prod.fst

/-- The number of items of a loop, if it was known beforehand. -/
def loopLength? (l : Loop) : Option Nat :=
  if l.sized then some (l.past.length + l.current.toList.length + l.future.length) else none

/-- The member of a loop that has this name. -/
def loopMember? (l : Loop) (s : String) : Option Value :=
  match l.current with
  | none => some (.undefined false)
  | some _ =>
    let index := l.past.length
    let counted (f : Nat → Nat) : Value :=
      match loopLength? l with
      | some n => .ofNat (f n)
      | none => .undefined false
    match s with
    | "index0" => some (.ofNat index)
    | "index" => some (.ofNat (index + 1))
    | "length" => some (counted fun n => n)
    | "revindex" => some (counted fun n => n - index)
    | "revindex0" => some (counted fun n => n - index - 1)
    | "first" => some (.bool (index == 0))
    | "last" => some (.bool (l.sized && l.future.isEmpty))
    | "depth" => some (.ofNat (l.depth + 1))
    | "depth0" => some (.ofNat l.depth)
    | "previtem" => some (l.past.head?.getD (.undefined false))
    | "nextitem" => some (l.future.head?.getD (.undefined false))
    | _ => none

def loopMembers : List String :=
  ["index0", "index", "length", "revindex", "revindex0", "first", "last", "depth", "depth0",
    "previtem", "nextitem"]

mutual

/-- A value with what its handles stand for in their place. -/
def withHandles (f : Handle → Value) : Value → Value
  | .seq vs id => .seq (withHandlesAll f vs) id
  | .iterator vs sized id => .iterator (withHandlesAll f vs) sized id
  | .group k vs id => .group (withHandles f k) (withHandlesAll f vs) id
  | .map es role id => .map (withHandlesEntries f es) role id
  | .object h => f h
  | v => v
termination_by structural v => v

/-- Values with what their handles stand for in their place. -/
def withHandlesAll (f : Handle → Value) : List Value → List Value
  | [] => []
  | v :: vs => withHandles f v :: withHandlesAll f vs
termination_by structural vs => vs

/-- Entries with what their handles stand for in their place. -/
def withHandlesEntries (f : Handle → Value) : List (Value × Value) → List (Value × Value)
  | [] => []
  | e :: es => withHandlesEntry f e :: withHandlesEntries f es
termination_by structural es => es

/-- An entry with what its handles stand for in their place. -/
def withHandlesEntry (f : Handle → Value) : Value × Value → Value × Value
  | (k, v) => (withHandles f k, withHandles f v)
termination_by structural e => e

end

/-- What a handle stands for: a namespace for its entries, a loop for its
members. `depth` limits how far namespaces inside namespaces are followed. -/
def resolve (m : Machine) : Nat → Handle → Value
  | 0, h => .object h
  | depth + 1, h =>
    match h with
    | .space i =>
      .map (((m.spaces[i]?).getD []).map fun e => (e.1, withHandles (resolve m depth) e.2))
        (.space i) none
    | .loop i =>
      match m.loops[i]? with
      | some l =>
        .map (loopMembers.filterMap fun s => (loopMember? l s).map fun v => (.ofString s, v))
          (.loop i l.past.length (loopLength? l)) none
      | none => .object h
    | h => .object h

/-- How far namespaces inside namespaces are followed. -/
def resolveDepth : Nat := 64

/-- Whether nothing can change beside the frames. -/
def isSettled (m : Machine) : Bool := m.spaces.isEmpty && m.loops.isEmpty

/-- The value as it is at this moment. -/
def view (m : Machine) (v : Value) : Value :=
  match v with
  | .string _ _ => v
  | .int _ => v
  | v => if m.isSettled then v else withHandles (m.resolve resolveDepth) v

mutual

/-- A value with handles in the place of what they stood for. -/
def handled : Value → Value
  | .seq vs id => .seq (handledAll vs) id
  | .iterator vs sized id => .iterator (handledAll vs) sized id
  | .group k vs id => .group (handled k) (handledAll vs) id
  | .map _ (.space i) _ => .object (.space i)
  | .map _ (.loop i _ _) _ => .object (.loop i)
  | .map es role id => .map (handledEntries es) role id
  | v => v
termination_by structural v => v

/-- Values with handles in the place of what they stood for. -/
def handledAll : List Value → List Value
  | [] => []
  | v :: vs => handled v :: handledAll vs
termination_by structural vs => vs

/-- Entries with handles in the place of what they stood for. -/
def handledEntries : List (Value × Value) → List (Value × Value)
  | [] => []
  | e :: es => handledEntry e :: handledEntries es
termination_by structural es => es

/-- An entry with handles in the place of what they stood for. -/
def handledEntry : Value × Value → Value × Value
  | (k, v) => (handled k, handled v)
termination_by structural e => e

end

/-- A value made of what others are at this moment, to be kept for later. -/
def keep (m : Machine) (v : Value) : Value :=
  match v with
  | .string _ _ => v
  | .int _ => v
  | v => if m.isSettled then v else handled v

/-- Entries made of what others are at this moment, to be kept for later. -/
def keepEntries (m : Machine) (es : List (Value × Value)) : List (Value × Value) :=
  es.map fun e => (e.1, m.keep e.2)

/-- The text of a value at this moment. -/
def textOf (m : Machine) (v : Value) : Text := (m.view v).display

end Machine

end ScriptedTemplate
