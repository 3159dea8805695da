import ScriptedTemplate.Script.Operation

/-
  Arguments — what callables take

  A callable takes its arguments from the left, each as what it needs: any
  value, a text, a whole number between bounds, a truth value. What is optional
  may be missing, undefined or none. Named arguments come last, as one map; a
  callable that asks for them answers for every name it does not know.
-/

namespace ScriptedTemplate

/-- What takes arguments off a list. -/
abbrev Taking (α : Type) := StateT (List Value) (Except Cause) α

/-- The arguments given by name. -/
structure Named where
  entries : List (Value × Value)

namespace Arguments

def next? : Taking (Option Value) := fun
  | [] => .ok (none, [])
  | v :: rest => .ok (some v, rest)

def value : Taking Value := do
  match ← next? with
  | some v => return v
  | none => throw .missingArgument

/-- Whether an optional argument is as good as missing. -/
def isAbsent (v : Value) : Bool := v.isUndefined || v.isNone

def value? : Taking (Option Value) := do
  match ← next? with
  | some v => return if isAbsent v then none else some v
  | none => return none

def asText (v : Value) : Except Cause String :=
  match v with
  | .undefined _ => .error .undefinedValue
  | .map _ .keywords _ => .error .namedText
  | v => .ok v.displayString

def text : Taking String := do asText (← value)

/-- The next argument as a text, unless it is absent. -/
def text? : Taking (Option String) := do
  match ← value? with
  | some v => some <$> asText v
  | none => return none

/-- The whole number of an argument, between two bounds; `bounds` is what the
numbers between them are called. -/
def asWhole (bounds : String) (low high : Int) (v : Value) : Except Cause Int :=
  match v.whole? with
  | some n => if low ≤ n && n ≤ high then .ok n else .error (.notConvertible v.kind bounds)
  | none => .error (.notConvertible v.kind bounds)

def asInteger (v : Value) : Except Cause Int := asWhole "i64" (-twoTo 63) (twoTo 63 - 1) v

/-- A whole number of 64 bits, as the bounds of a range are. -/
def asStep (v : Value) : Except Cause Int := asWhole "isize" (-twoTo 63) (twoTo 63 - 1) v

def asShort (v : Value) : Except Cause Int := asWhole "i32" (-twoTo 31) (twoTo 31 - 1) v

def asSize (v : Value) : Except Cause Nat :=
  (asWhole "usize" 0 (twoTo 64 - 1) v).map Int.toNat

def asFlag : Value → Except Cause Bool
  | .bool b => .ok b
  | v => .error (.notConvertible v.kind "bool")

def asString : Value → Except Cause String
  | .string s _ => .ok s
  | _ => .error .notString

def taken {α : Type} (f : Value → Except Cause α) : Taking α := do f (← value)

/-- The next argument as `f` takes it, unless it is absent. -/
def taken? {α : Type} (f : Value → Except Cause α) : Taking (Option α) := do
  match ← value? with
  | some v => some <$> f v
  | none => return none

def rest : Taking (List Value) := fun vs => .ok (vs, [])

/-- No argument may be left. A callable asks for this before it does anything. -/
def done : Taking Unit := fun
  | [] => .ok ((), [])
  | _ :: _ => .error .tooManyArguments

/-- The arguments given by name; no others may be left. -/
def named : Taking Named := do
  match ← next? with
  | none => return ⟨[]⟩
  | some (.map entries .keywords _) =>
    done
    return ⟨entries⟩
  | some _ => throw .tooManyArguments

/-- Take with `f` from these arguments, all of them. -/
def all {α : Type} (f : Taking α) (args : List Value) : Except Cause α :=
  match f args with
  | .ok (a, []) => .ok a
  | .ok (_, _ :: _) => .error .tooManyArguments
  | .error e => .error e

/-- The positional arguments, and those given by name. -/
def partition (args : List Value) : List Value × Named :=
  match args.getLast? with
  | some (.map entries .keywords _) => (args.dropLast, ⟨entries⟩)
  | _ => (args, ⟨[]⟩)

end Arguments

namespace Named

def get? (n : Named) (s : String) : Option Value := Value.entry? (.ofString s) n.entries

/-- The argument of a name as `f` takes it, unless it is absent. -/
def taken? {α : Type} (n : Named) (s : String) (f : Value → Except Cause α) :
    Except Cause (Option α) :=
  match n.get? s with
  | none => .ok none
  | some v => if Arguments.isAbsent v then .ok none else (f v).map some

/-- The argument at a place among those without a name or, if that is absent, of a
name, as `f` takes it. -/
def either {α : Type} (n : Named) (plain : List Value) (place : Nat) (s : String)
    (f : Value → Except Cause α) : Except Cause (Option α) :=
  match plain[place]? with
  | none => n.taken? s f
  | some v => if Arguments.isAbsent v then n.taken? s f else (f v).map some

/-- Of the names of arguments in their places, those of the absent ones. -/
def unplaced (plain : List Value) (names : List String) : List String :=
  (names.zipIdx.filter fun p => (plain[p.2]?).all Arguments.isAbsent).map (·.1)

/-- Every name that was given must be one of these. -/
def only (n : Named) (names : List String) : Except Cause Unit :=
  match n.entries.findSome? fun e =>
    match e.1 with
    | .string s _ => if names.contains s then none else some (Cause.unknownKeyword s)
    | _ => some .strangeKeyword with
  | some c => .error c
  | none => .ok ()

end Named

end ScriptedTemplate
