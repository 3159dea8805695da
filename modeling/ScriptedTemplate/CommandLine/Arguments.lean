import ScriptedTemplate.Decimal.Power
import ScriptedTemplate.CommandLine.Usage
import ScriptedTemplate.Options.Basic
import ScriptedTemplate.Text.Digits

/-
  Arguments — from a command line to what it asks for

  An argument names parameters and switches or is the value of one. The value of
  a parameter is looked at only when the next thing is taken up, so a name that
  means nothing is reported before a value that cannot be used. After `--` every
  argument is a value by its place. Help and the version are answered as soon as
  they are asked for.
-/

namespace ScriptedTemplate

namespace CommandLine

/-- What a command line asks for when it asks for output. -/
structure Invocation where
  template : String
  data : Option String
  output : Option String
  config : Option String
  flags : Settings
  emitProgram : Bool
  verbosity : Nat
  deriving DecidableEq, Repr

/-- Why a command line does not ask for output. -/
inductive Stop where
  | help
  | version
  | fault (f : UsageFault)
  deriving DecidableEq, Repr

/-- What has been taken up: the values of parameters and the switches, both the
newest first, and the parameter whose turn it is, with its value if that is
known. -/
structure Intake where
  values : List (Parameter × String)
  switches : List Switch
  pending : Option (Parameter × Option String)
  deriving DecidableEq, Repr

/-- The number a text stands for; a plus sign may come first, and a number that
grows too large is refused before what follows is looked at. -/
def number (t : Text) : Except NumberFault Nat :=
  let digits (u : Text) : Except NumberFault Nat :=
    u.foldlM (fun n c =>
      match Text.digitBelow? 10 c with
      | none => .error .badDigit
      | some d => if n * 10 + d < twoTo 64 then .ok (n * 10 + d) else .error .tooLarge) 0
  match t with
  | [] => .error .empty
  | '+' :: [] => .error .badDigit
  | '+' :: u => digits u
  | u => digits u

namespace Intake

def start : Intake := ⟨[], [], none⟩

def value? (i : Intake) (p : Parameter) : Option String :=
  (i.values.find? (·.1 == p)).map (·.2)

def assign (p : Parameter) (v : String) (i : Intake) : Except Stop Intake :=
  let taken : Intake := { i with values := (p, v) :: i.values, pending := none }
  if (i.value? p).isSome then .error (.fault (.repeated p.display))
  else if p.isFile && v.isEmpty then .error (.fault (.noValue p))
  else if p = .contextWidth then
    match number v.toList with
    | .error f => .error (.fault (.badValue v p f))
    | .ok _ => .ok taken
  else .ok taken

/-- Look at the value of the parameter whose turn it is. -/
def settle (i : Intake) : Except Stop Intake :=
  match i.pending with
  | none => .ok i
  | some (p, none) => .error (.fault (.noValue p))
  | some (p, some v) => i.assign p v

def turn (s : Switch) (i : Intake) : Except Stop Intake :=
  match i.settle with
  | .error e => .error e
  | .ok i =>
    match s with
    | .help => .error .help
    | .version => .error .version
    | .verbose => .ok { i with switches := s :: i.switches }
    | _ =>
      if i.switches.contains s then .error (.fault (.repeated s.display))
      else .ok { i with switches := s :: i.switches }

/-- Take up a parameter, with its value if that is attached. -/
def name (p : Parameter) (attached : Option String) (i : Intake) : Except Stop Intake :=
  match i.settle with
  | .error e => .error e
  | .ok i =>
    match attached with
    | some v => i.assign p v
    | none => .ok { i with pending := some (p, none) }

/-- Take up an argument by its place; there is a place for the template only. -/
def place (a : String) (i : Intake) : Except Stop Intake :=
  let isTaken := (i.value? .template).isSome || i.pending.any fun p => p.1 == .template
  if isTaken then .error (.fault (.unexpected a))
  else i.settle.map fun i => { i with pending := some (.template, some a) }

/-- Take up an argument with a long name. -/
def long (body : Text) (i : Intake) : Except Stop Intake :=
  let word := String.ofList (body.takeWhile (· ≠ '='))
  let attached := ((body.dropWhile (· ≠ '=')).tail?).map String.ofList
  match long? word, attached with
  | none, _ => .error (.fault (.unexpected ("--" ++ word)))
  | some (.parameter p), _ => i.name p attached
  | some (.switch s), none => i.turn s
  | some (.switch s), some v => .error (.fault (.superfluousValue v s))

/-- Take up short names in one argument. What follows a parameter's name is its
value, an equals sign between them apart. -/
def shorts : Text → Intake → Except Stop Intake
  | [], i => .ok i
  | c :: t, i =>
    match short? c with
    | none => .error (.fault (.unexpected (String.ofList ['-', c])))
    | some (.switch s) =>
      match i.turn s with
      | .error e => .error e
      | .ok i => shorts t i
    | some (.parameter p) =>
      match t with
      | [] => i.name p none
      | '=' :: v => i.name p (some (String.ofList v))
      | v => i.name p (some (String.ofList v))

/-- Take up one argument that is not after `--`. -/
def argument (a : String) (i : Intake) : Except Stop Intake :=
  match a.toList with
  | '-' :: '-' :: body => i.long body
  | '-' :: c :: t => i.shorts (c :: t)
  | _ =>
    match i.pending with
    | some (p, none) => .ok { i with pending := some (p, some a) }
    | _ => i.place a

/-- Take up arguments; `placed` says whether `--` has come. -/
def run (placed : Bool) (i : Intake) : List String → Except Stop Intake
  | [] => i.settle
  | a :: rest =>
    if !placed && a == "--" then run true i rest
    else
      match if placed then i.place a else i.argument a with
      | .error e => .error e
      | .ok i => run placed i rest

def flags (i : Intake) : Settings where
  codeBegin := (i.value? .codeBegin).map String.toList
  codeEnd := (i.value? .codeEnd).map String.toList
  outputBegin := (i.value? .outputBegin).map String.toList
  outputEnd := (i.value? .outputEnd).map String.toList
  trimAfterCode := if i.switches.contains .noTrim then some false else none
  contextWidth := (i.value? .contextWidth).bind fun v => (number v.toList).toOption

end Intake

def parse (arguments : List String) : Except Stop Invocation :=
  match Intake.start.run false arguments with
  | .error e => .error e
  | .ok i =>
    match i.value? .template with
    | none => .error (.fault .noTemplate)
    | some t =>
      .ok
        { template := t
          data := i.value? .data
          output := i.value? .output
          config := i.value? .config
          flags := i.flags
          emitProgram := i.switches.contains .emitProgram
          verbosity := i.switches.count .verbose }

end CommandLine

end ScriptedTemplate
