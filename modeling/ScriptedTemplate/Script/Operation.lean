import ScriptedTemplate.Script.Fault
import ScriptedTemplate.Script.Operator
import ScriptedTemplate.Value.Order
import ScriptedTemplate.Value.Display
import ScriptedTemplate.Decimal.Arithmetic

/-
  Operations — what operators do with values

  Arithmetic on whole numbers is exact within 128 bits and fails beyond them;
  with a float on either side it is done on doubles. A division is always done
  on doubles. The whole quotient and the remainder of whole numbers leave a
  remainder of zero or more. Comparison and joining work on all values.
-/

namespace ScriptedTemplate

namespace Operation

def least : Int := -twoTo 127

def greatest : Int := twoTo 127 - 1

/-- Whether a whole number is within the bounds of arithmetic. -/
def fits (n : Int) : Bool := least ≤ n && n ≤ greatest

/-- The failure of an operator that has no meaning for its operands. -/
def unsupported {α : Type} (op : String) (a b : Value) : Except Cause α :=
  .error (.unsupported op a.kind b.kind)

/-- The failure of an operation without a result. -/
def incalculable {α : Type} (op : String) (a b : Value) : Except Cause α :=
  .error (.incalculable a.displayString op b.displayString)

/-- Arithmetic of whole numbers by `f` and of doubles by `g`. -/
def arithmetic (op : String) (f : Int → Int → Option Int) (g : Float → Float → Float)
    (a b : Value) : Except Cause Value :=
  match a.pair? b with
  | some (.ints m n) =>
    if fits m && fits n then
      match f m n with
      | some k => if fits k then .ok (.int k) else incalculable op a b
      | none => incalculable op a b
    else unsupported op a b
  | some (.floats x y) => .ok (.float (g x y))
  | _ => unsupported op a b

/-- The number of repetitions that a value stands for. -/
def count? (v : Value) : Option Nat :=
  match v.whole? with
  | some n => if 0 ≤ n && n < twoTo 64 then some n.toNat else none
  | none => none

/-- Whether the value is a sequence or an iterator. -/
def isListing (v : Value) : Bool := v.items?.isSome

/-- The sum: lists one after the other, texts one after the other, or numbers. -/
def plus (a b : Value) : Except Cause Value :=
  match a.items?, b.items? with
  | some xs, some ys => .ok (.iterator (xs ++ ys) (a.isSized && b.isSized) none)
  | _, _ =>
    match a.pair? b with
    | some (.strings s t) => .ok (.string (s ++ t) false)
    | _ => arithmetic "+" (fun m n => some (m + n)) (· + ·) a b

def repeatText (s : String) (n : Value) : Except Cause Value :=
  match count? n with
  | some k => .ok (.ofText (List.replicate k s.toList).flatten)
  | none => .error .notRepeatable

/-- The items of a value so many times; their number must be known. -/
def repeatItems (v : Value) (items : List Value) (n : Value) : Except Cause Value :=
  match count? n with
  | some k =>
    if v.isSized then .ok (.ofStream (List.replicate k items).flatten)
    else .error .notRepeatableStream
  | none => .error .notRepeatableItems

/-- The product: a text or list so many times, or a product of numbers. -/
def times (a b : Value) : Except Cause Value :=
  match a, b with
  | .string s _, n => repeatText s n
  | n, .string s _ => repeatText s n
  | _, _ =>
    match a.items?, b.items? with
    | some xs, _ => repeatItems a xs b
    | none, some ys => repeatItems b ys a
    | none, none => arithmetic "*" (fun m n => some (m * n)) (· * ·) a b

def divide (a b : Value) : Except Cause Value :=
  match a.double?, b.double? with
  | some x, some y => .ok (.float (x / y))
  | _, _ => unsupported "/" a b

/-- The power of whole numbers, if it is within the bounds of arithmetic. -/
def wholePower (m n : Int) : Option Int :=
  if n < 0 || twoTo 32 ≤ n then none
  else if m = 0 || m = 1 || m = -1 then some (Int.pow m (if n = 0 then 0 else 2 - n.toNat % 2))
  else if 128 ≤ n then none
  else some (Int.pow m n.toNat)

def join (a b : Value) : Value := .ofText (a.display ++ b.display)

/-- Whether one text occurs in another. -/
def occurs (inner outer : Text) : Bool := (Text.splitAt? inner outer).isSome

/-- Whether a container holds a value: a text a text, a list an item, a map a
key. -/
def within (v container : Value) : Except Cause Bool :=
  match container with
  | .undefined _ => .ok false
  | .string s _ => .ok (occurs v.display s.toList)
  | .map entries _ _ => .ok (Value.entry? v entries).isSome
  | .object _ => .ok false
  | c =>
    match c.items? with
    | some items => .ok (items.any fun w => w.same v)
    | none => .error .notContainer

def opposite : Value → Except Cause Value
  | .int n =>
    if n = twoTo 127 then .ok (.int n)
    else if !fits n then .error .bare
    else if n = least then .error .overflow
    else .ok (.int (-n))
  | .float x => .ok (.float (-x))
  | _ => .error .bare

/-- What an operator makes of two values. -/
def apply (op : Operator) (a b : Value) : Except Cause Value :=
  match op with
  | .or => .ok (if a.isTrue then a else b)
  | .and => .ok (if a.isTrue then b else a)
  | .equal => .ok (.bool (a.same b))
  | .unequal => .ok (.bool !(a.same b))
  | .less => .ok (.bool (a.order b == .lt))
  | .lessEqual => .ok (.bool (a.order b != .gt))
  | .greater => .ok (.bool (a.order b == .gt))
  | .greaterEqual => .ok (.bool (a.order b != .lt))
  | .within => (within a b).map .bool
  | .plus => plus a b
  | .minus => arithmetic "-" (fun m n => some (m - n)) (· - ·) a b
  | .join => .ok (join a b)
  | .times => times a b
  | .divide => divide a b
  | .floorDivide =>
    arithmetic "//" (fun m n => if n = 0 then none else some (m / n)) Binary.floorQuotient a b
  | .modulo => arithmetic "%" (fun m n => if n = 0 then none else some (m % n)) Binary.remainder a b
  | .power => arithmetic "**" wholePower Float.pow a b

/-- The place of an item counted from the start, or from the end when it is
negative. -/
def place? (i : Int) (length : Nat) : Option Nat :=
  if i < 0 then if i.natAbs ≤ length then some (length - i.natAbs) else none else some i.toNat

/-- The place that a key stands for. -/
def keyPlace? (key : Value) (length : Nat) : Option Nat :=
  match key.whole? with
  | some i => if -twoTo 63 ≤ i && i < twoTo 63 then place? i length else none
  | none => none

/-- The place that a key stands for among the items of a value; from the end
they are counted only if their number is known. -/
def itemPlace? (v key : Value) (length : Nat) : Option Nat :=
  if v.isSized || key.whole?.any (0 ≤ ·) then keyPlace? key length else none

/-- The member of a group that has this name. -/
def groupMember? (key : Value) (members : List Value) (s : String) : Option Value :=
  if s = "grouper" then some key else if s = "list" then some (.ofStream members) else none

/-- The item of a value under a key. -/
def item? (v key : Value) : Option Value :=
  match v with
  | .map entries _ _ => Value.entry? key entries
  | .string s _ =>
    let t := s.toList
    (keyPlace? key t.length).bind fun i => t[i]?.map fun c => .ofText [c]
  | .group k members _ =>
    match key with
    | .string s _ => groupMember? k members s
    | _ => (keyPlace? key 2).bind fun i => [k, Value.ofStream members][i]?
  | .bytes bs => (keyPlace? key bs.length).bind fun i => bs[i]?.map fun b => .int b.toNat
  | _ =>
    match v.items? with
    | some items => (itemPlace? v key items.length).bind fun i => items[i]?
    | none => none

/-- The member of a value that has this name. -/
def member? (v : Value) (s : String) : Option Value :=
  match v with
  | .map entries _ _ => Value.entry? (.ofString s) entries
  | .group k members _ => groupMember? k members s
  | _ => none

/-- Every `step`-th item. -/
def everyNth {α : Type} (step : Nat) (xs : List α) : List α :=
  (xs.zipIdx.filter fun p => p.2 % step == 0).map (·.1)

/-- The first place of a slice and the number of places after which it ends,
among `size` items. -/
def span (size : Nat) (start : Int) (stop : Option Int) : Nat × Nat :=
  let bound (n : Int) : Int := if n < 0 then max (size + n) 0 else n
  let stop :=
    match stop with
    | none => (size : Int)
    | some n => bound n
  ((bound start).toNat, (stop - bound start).toNat)

/-- The items from one place up to another, every `step`-th of them. -/
def forward {α : Type} (size : Nat) (start : Int) (stop : Option Int) (step : Nat) (xs : List α) :
    List α :=
  let (first, count) := span size start stop
  everyNth step ((xs.drop first).take count)

/-- The items from one place down to another, every `step`-th of them. The last
place is left out, unless it is the first one of all. -/
def backward {α : Type} (start stop : Option Int) (step : Nat) (xs : List α) : List α :=
  let size := xs.length
  let bound (n : Int) : Nat := (if n < 0 then size + n else n).toNat
  let start := min (match start with | none => size - 1 | some n => bound n) (size - 1)
  let stop := match stop with | none => 0 | some n => bound n
  let taken := (xs.take (start + 1)).drop (if stop = 0 then 0 else stop + 1)
  everyNth step taken.reverse

def bound? (v : Value) : Except Cause (Option Int) :=
  match v with
  | .none => .ok none
  | v =>
    match v.whole? with
    | some n =>
      if -twoTo 63 ≤ n && n < twoTo 63 then .ok (some n)
      else .error (.notConvertible v.kind "i64")
    | none => .error (.notConvertible v.kind "i64")

/-- The part of a value between two places. -/
def slice (v start stop step : Value) : Except Cause Value := do
  let start ← bound? start
  let stop ← bound? stop
  let step := (← bound? step).getD 1
  if step = 0 then throw .zeroStep
  let part {α : Type} (size : Nat) (xs : List α) : List α :=
    if 0 < step then forward size (start.getD 0) stop step.toNat xs
    else backward start stop step.natAbs xs
  match v with
  | .string s _ => return .ofText (part s.length s.toList)
  | .bytes bs => return .bytes (part bs.length bs)
  | .undefined _ => return .ofItems []
  | .none => return .ofItems []
  | v =>
    match v.items? with
    | none => throw (.notSliceable v.kind)
    | some items =>
      if v.isSized then return .ofStream (part items.length items)
      else if step < 0 then return .ofStream []
      else return .iterator (part 0 items) ((span 0 (start.getD 0) stop).2 == 0) none

/-- What a container is walked through by: its items, the keys of a map, the
names of the members of a routine. -/
def contents? : Value → Option (List Value)
  | .map entries _ _ => some (entries.map (·.1))
  | .object (.routine _ _) => some (Value.routineMembers.map Value.ofString)
  | v => v.items?

/-- The items that a value is walked through by: the characters of a text, the
contents of a container; nothing has none. -/
def walk (v : Value) : Except Cause (List Value) :=
  match v with
  | .undefined _ => .ok []
  | .none => .ok []
  | .string s _ => .ok (s.toList.map fun c => .ofText [c])
  | .invalid reason => .error (.invalidValue reason)
  | v =>
    match contents? v with
    | some items => .ok items
    | none => .error (.notIterable v.kind)

/-- The number of characters or of contents, if it is known. -/
def length? : Value → Option Nat
  | .string s _ => some s.length
  | v => if v.isSized then (contents? v).map List.length else none

end Operation

end ScriptedTemplate
