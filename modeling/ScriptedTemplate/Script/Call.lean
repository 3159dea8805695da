import ScriptedTemplate.Script.Machine
import ScriptedTemplate.Script.Filter

/-
  Calls — what running programs can call

  Functions of the language and of the host are called with the arguments as
  they are at that moment; the sink of a run writes to its buffer. A routine
  runs in frames of its own, which stand on what it has taken along, and answers
  the text that it shows. A loop that is called runs again, for other items, in
  the frames of the call.

  Running the body of a routine is not done here: it is left to a `Reentry`,
  which is what the evaluator offers one level deeper.
-/

namespace ScriptedTemplate

/-- Evaluation one level deeper. -/
structure Reentry where
  expr : Expr → Run Value
  body : List Statement → Run Unit

namespace Call

open Run Arguments

def rangeLimit : Nat := 100000

def progression (start step : Int) (count : Nat) : List Value :=
  (List.range count).map fun (i : Nat) => .int (start + step * i)

/-- How many numbers lie between two bounds, `step` apart. -/
def rangeCount (start stop step : Int) : Nat :=
  if 0 < step then ((stop - start + step - 1) / step).toNat
  else ((start - stop - step - 1) / (-step)).toNat

def range : Taking Value := do
  let a ← taken asStep
  let b? ← taken? asStep
  let step := (← taken? asStep).getD 1
  done
  let (start, stop) :=
    match b? with
    | some b => (a, b)
    | none => (0, a)
  if step = 0 then throw .zeroRangeStep
  let count := rangeCount start stop step
  if rangeLimit < count then throw .rangeTooLong
  return .ofStream (progression start step count)

/-- The entries that have a name for a key. -/
def namedOnly (es : List (Value × Value)) : List (Value × Value) :=
  es.filter fun e => e.1.kind == .string

def dict : Taking Value := do
  match ← next? with
  | none => return .ofMap []
  | some (.map entries .keywords _) => return .ofMap (namedOnly entries)
  | some v =>
    let n ← named
    let entries ←
      match v with
      | .undefined _ => pure []
      | .none => pure []
      | .map es _ _ => pure es
      | _ => throw .bare
    return .ofMap (Value.ofEntries (entries ++ namedOnly n.entries))

def spaceEntries : Taking (List (Value × Value)) := do
  match ← next? with
  | none => return []
  | some (.undefined _) => return []
  | some (.map entries _ _) => return namedOnly entries
  | some v => do
    done
    if v.isNone then return [] else throw (.notSpace v.kind)

def debug : Taking Value := do
  match ← rest with
  | [v] => return .ofText (Filter.spread 0 v)
  | vs => return .ofText (Filter.spread 0 (.ofItems vs))

def raise : Taking Value := do
  let message ← text
  done
  throw (.raised message)

def builtin (s : String) (args : List Value) : Run Value := do
  let m ← get
  match s with
  | "range" => lift (all range args)
  | "dict" => m.keep <$> lift (all dict args)
  | "namespace" =>
    let entries ← lift (all spaceEntries args)
    set { m with spaces := m.spaces.push (m.keepEntries entries) }
    return .object (.space m.spaces.size)
  | "debug" => lift (all debug args)
  | _ => lift (all raise args)

def write (i : Nat) (args : List Value) : Run Value := do
  let m ← get
  match m.buffers.call i (args.map m.view) with
  | (.ok v, b) =>
    set { m with buffers := b }
    return v
  | (.error c, _) => stop c

/-- The value for every parameter of a routine, from the arguments without a
name and those with one. -/
def parameterValues (args : List Value) (named : Named) (parameters : List String) :
    Except Cause (List Value) :=
  parameters.zipIdx.mapM fun p =>
    match args[p.2]?, named.get? p.1 with
    | some _, some _ => .error (.repeatedArgument p.1)
    | some v, none => .ok v
    | none, some v => .ok v
    | none, none => .ok (.undefined false)

/-- Bind the parameters of a routine, the last one first; an undefined one takes
its default. -/
def bindParameters (re : Reentry) : List (String × Value) → List Expr → Run Unit
  | [], _ => return ()
  | (s, v) :: rest, [] => do
    store s v
    bindParameters re rest []
  | (s, v) :: rest, d :: ds => do
    let v ← if v.isUndefined then re.expr d else pure v
    store s v
    bindParameters re rest ds

def routine (re : Reentry) (r : Routine) (args : List Value) : Run Value := do
  let d := r.definition
  let (args, named) := partition args
  if d.parameters.length < args.length then stop .tooManyArguments
  let values ← lift (parameterValues args named d.parameters)
  let known := if r.wantsCaller then "caller" :: d.parameters else d.parameters
  for e in named.entries do
    match e.1 with
    | .string s _ => if !known.contains s then stop (.strayKeyword s)
    | _ => pure ()
  let outer ← get
  let depth := outer.depth + outer.frames.length + routineCost
  if depthLimit < depth + 2 then stop .recursionLimit
  set { outer with
    frames := [{ ground := .closure r.closure }, {}], depth := depth, block := none, blocks := [] }
  if r.wantsCaller then store "caller" ((named.get? "caller").getD (.undefined false))
  bindParameters re (d.parameters.zip values).reverse d.defaults.reverse
  let v ← capturedValue (re.body d.body)
  modify fun m =>
    { m with frames := outer.frames, depth := outer.depth, block := outer.block
             blocks := outer.blocks }
  return v

/-- Notice whether a loop is called with other arguments than before. -/
def changed (i : Nat) (l : Loop) (args : List Value) : Run Value := do
  let isSame :=
    match l.noticed with
    | some before => Value.sameItems before args
    | none => false
  if isSame then return .bool false
  modify fun m => { m with loops := m.loops.setIfInBounds i { l with noticed := some args } }
  return .bool true

def value (h : Host) (re : Reentry) (f : Value) (args : List Value) : Run Value := do
  match f with
  | .object (.sink i) => write i args
  | .object (.builtin s) =>
    let m ← get
    builtin s (args.map m.view)
  | .object (.host s) =>
    let m ← get
    match h.function? s with
    | some g => m.keep <$> lift (g (args.map m.view))
    | none => stop (.unknownFunction s)
  | .object (.routine i _) =>
    match (← get).routines[i]? with
    | some r => routine re r args
    | none => stop .notCallableObject
  | .object (.loop _) => stop .loopMoved
  | .object (.space _) => stop .notCallableObject
  | .map _ _ _ => stop .notCallableObject
  | v => if Operation.isListing v then stop .notCallableObject else stop (.notCallable v.kind)

/-- Call a method of a loop, or what it holds under the name. -/
def loopMethod (h : Host) (re : Reentry) (i : Nat) (s : String) (args : List Value) :
    Run Value := do
  match (← get).loops[i]? with
  | none => stop (.unknownMethod .map s)
  | some l =>
    match s with
    | "changed" => changed i l args
    | "cycle" => return (args[l.past.length % args.length]?).getD (.undefined false)
    | _ =>
      match Machine.loopMember? l s with
      | some v => value h re v args
      | none => stop (.unknownMethod .map s)

/-- The member of a value at this moment. -/
def member? (m : Machine) (v : Value) (s : String) : Option Value :=
  match v with
  | .object (.space i) => Value.entry? (.ofString s) ((m.spaces[i]?).getD [])
  | .object (.loop i) => (m.loops[i]?).bind fun l => Machine.loopMember? l s
  | .object (.routine i _) =>
    (m.routines[i]?).bind fun r =>
      match s with
      | "name" => some (.ofString r.definition.routineName)
      | "arguments" => some (.ofItems (r.definition.parameters.map Value.ofString))
      | "caller" => some (.bool r.wantsCaller)
      | _ => none
  | v => Operation.member? v s

/-- Call a method of a value: what it holds under the name. -/
def method (h : Host) (re : Reentry) (v : Value) (s : String) (args : List Value) : Run Value := do
  match v with
  | .object (.loop i) => loopMethod h re i s args
  | v =>
    match member? (← get) v s with
    | some f => value h re f args
    | none => stop (.unknownMethod v.kind s)

/-- Run a body for every item; every turn begins without names of its own. -/
def turns (i : Nat) (assign : Value → Run Unit) (body : Run Unit) : List Value → Run Unit
  | [] => return ()
  | v :: vs => do
    let v ← valid v
    clearFrame
    modify fun m => { m with loops := m.loops.modify i fun l =>
      { l with past := l.current.toList ++ l.past, current := some v, future := vs } }
    assign v
    body
    turns i assign body vs

/-- Run a body for items, in a frame of its own; `sized` says whether their
number is known beforehand. -/
def loop (assign : Value → Run Unit) (body : Run Unit) (again : Option (Target × List Statement))
    (items : List Value) (sized : Bool) : Run Unit := do
  let m ← get
  let depth :=
    match m.currentLoop?.bind (m.loops[·]?) with
    | some l => if l.again.isSome then l.depth + 1 else 0
    | none => 0
  let i := m.loops.size
  set { m with loops := m.loops.push ⟨[], none, items, sized, depth, none, again⟩ }
  withFrame { loop := some (i, true) } (turns i assign body items)

/-- The items that a loop goes over for a value at this moment, and whether their
number is known beforehand, which that of the characters of a text is not. An
undefined value has no items. -/
def itemsOf (m : Machine) (v : Value) : Except Cause (List Value × Bool) :=
  match v with
  | .object _ => (Filter.items (m.view v)).map (·, true)
  | .string _ _ => (Filter.items v).map (·, false)
  | v => (Filter.items v).map (·, v.isSized)

/-- The items that a loop goes over now. -/
def items (v : Value) : Run (List Value × Bool) := do lift (itemsOf (← get) v)

def assign (eval : Expr → Run Value) : Target → Value → Run Unit
  | .name s _, v => store s v
  | .parts ts line, v => do
    let vs ← at_ line do
      let m ← get
      let vs ←
        match v with
        | .string _ _ => stop .notUnpackable
        | .undefined _ => stop .notUnpackable
        | .none => stop .notUnpackable
        | .object _ =>
          match Operation.walk (m.view v) with
          | .ok vs => pure vs
          | .error _ => stop .notUnpackable
        | v =>
          match Operation.walk v with
          | .ok vs => pure vs
          | .error _ => stop .notUnpackable
      if vs.length != ts.length then stop (.wrongLength ts.length vs.length)
      pure vs
    assignAll eval ts vs
  | .member e s, v => do
    let holder ← eval e
    at_ (e.lineAfter 0) do
      match holder with
      | .object (.space i) =>
        modify fun m => { m with spaces := m.spaces.modify i (Value.insertEntry (.ofString s) v) }
      | w => stop (.notAssignable w.kind)
where
  /-- Assign values to targets. -/
  assignAll (eval : Expr → Run Value) : List Target → List Value → Run Unit
    | t :: ts, v :: vs => do
      assign eval t v
      assignAll eval ts vs
    | _, _ => return ()

def again (re : Reentry) (i : Nat) (args : List Value) : Run Value := do
  match args, (← get).loops[i]? with
  | [v], some l =>
    match l.again with
    | none => stop .outsideRecursion
    | some (t, body) =>
      match itemsOf (← get) v with
      | .error _ => stop .recursionNotIterable
      | .ok (vs, sized) =>
        capturedValue (loop (assign re.expr t) (re.body body) (some (t, body)) vs sized)
  | _, _ => stop .loopArguments

/-- Run a block, which is not a required one. -/
def block (s : String) (required : Bool) (body : Run Unit) : Run Unit := do
  if required then stop (.requiredBlock s)
  let before := (← get).block
  withFrame {} do
    modify fun m => { m with block := some s }
    body
  modify fun m => { m with block := before }

def blockNamed (re : Reentry) (s : String) : Run Unit := do
  match (← get).blocks.find? fun b => b.blockName == s with
  | some b => block s b.required (re.body b.body)
  | none => stop (.unknownBlock s)

/-- Ask for the block that the running one stands for; there is none. -/
def parentBlock (args : List Value) : Run Value := do
  if !args.isEmpty then stop .superArguments
  match (← get).block with
  | none => stop .outsideBlock
  | some _ => stop .noParentBlock

/-- Call what a name stands for. -/
def named (h : Host) (re : Reentry) (s : String) (args : List Value) : Run Value := do
  if s = "super" then parentBlock args
  else
    match (← get).lookup s with
    | some (.object (.loop i)) => again re i args
    | some f => value h re f args
    | none => stop (.unknownFunction s)

/-- Put arguments through a filter. -/
def filter (h : Host) (s : String) (args : List Value) : Run Value := do
  let m ← get
  match Filter.find? h m.escapes (args.length + 1) s with
  | none => stop (.unknownFilter s)
  | some f => m.keep <$> lift (f (args.map m.view))

def test (h : Host) (s : String) (args : List Value) : Run Value := do
  let m ← get
  match Test.find? (fun s => (h.filter? s).isSome) s with
  | none => stop (.unknownTest s)
  | some t => .bool <$> lift (t (args.map m.view))

/-- Define a routine: it takes along the value of every name that is free in it,
as long as these are not taken along already. -/
def define (d : Definition) : Run Value := do
  let m ← get
  let free := d.freeNames
  match m.frames with
  | [] => return .undefined false
  | f :: frames =>
    let (i, closures) :=
      match f.closure with
      | some i => (i, m.closures)
      | none => (m.closures.size, m.closures.push [])
    let known := (closures[i]?).getD []
    let taken := (free.filter fun s => s != "caller").foldl (fun (b : Bindings) s =>
      match b.get? s with
      | some _ => b
      | none => b.insert s ((m.lookup s).getD (.undefined false))) known
    set { m with
      frames := { f with closure := some i } :: frames
      closures := closures.setIfInBounds i taken
      routines := m.routines.push ⟨d, i, free.contains "caller"⟩ }
    return .object (.routine m.routines.size d.routineName)

/-- Whether a value counts as true; nothing can be said of an undefined one. -/
def truth (v : Value) : Run Bool := do
  match v with
  | .undefined false => stop .undefinedValue
  | v => return ((← get).view v).isTrue

def display (v : Value) : Run Unit := do
  let m ← get
  match v with
  | .undefined false => stop .undefinedValue
  | v => Run.write (if m.escapes then (Filter.escape (m.view v)).display else m.textOf v)

end Call

end ScriptedTemplate
