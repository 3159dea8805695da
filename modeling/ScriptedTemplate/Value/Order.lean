import ScriptedTemplate.Value.Basic
import ScriptedTemplate.Decimal.Binary

/-
  Order and equality of values

  Values of different kinds are ordered by kind. Within a kind numbers and truth
  values are ordered by size, strings and byte strings by their first
  difference, containers item by item, handles by their texts; what is no number
  comes before all numbers. Equality looks through the kinds of numbers: true is
  1, and 1 is 1.0, but a whole number that no double stands for equals none.
-/

namespace ScriptedTemplate

namespace Value

/-- A whole number that a double stands for, if it stands for one. -/
def wholeOf? (x : Float) : Option Int :=
  match Binary.ofFloat? x with
  | Option.none => Option.none
  | some b =>
    let size? : Option Nat :=
      if 0 ≤ b.exponent then some (b.mantissa * twoTo b.exponent.toNat)
      else
        let den := twoTo (-b.exponent).toNat
        if b.mantissa % den = 0 then some (b.mantissa / den) else Option.none
    size?.map fun n => if b.negative then -(n : Int) else n

def floatOf (n : Int) : Float := Binary.ofDecimal (decide (n < 0)) n.natAbs 0

/-- Two numbers brought to a common form. -/
inductive Pair where
  | ints (a b : Int)
  | floats (a b : Float)
  | strings (a b : String)

/-- The whole number of 64 bits that a double stands for. The double next above
these numbers stands for the greatest of them. -/
def boundedWholeOf? (x : Float) : Option Int :=
  (wholeOf? x).bind fun n =>
    if -twoTo 63 ≤ n && n < twoTo 63 then some n
    else if n = twoTo 63 then some (twoTo 63 - 1)
    else Option.none

/-- The whole number a value stands for in arithmetic: truth values count, and
so do floats without a fraction. -/
def whole? : Value → Option Int
  | bool b => some (if b then 1 else 0)
  | int n => some n
  | float x => boundedWholeOf? x
  | _ => Option.none

/-- The float a value stands for in arithmetic. -/
def double? : Value → Option Float
  | bool b => some (if b then 1.0 else 0.0)
  | int n => some (floatOf n)
  | float x => some x
  | _ => Option.none

/-- Two values brought to a common form; a float on either side makes both
floats. -/
def pair? : Value → Value → Option Pair
  | string a _, string b _ => some (.strings a b)
  | float a, b => b.double?.map (.floats a ·)
  | a, float b => a.double?.map (.floats · b)
  | a, b =>
    match a.whole?, b.whole? with
    | some m, some n => some (.ints m n)
    | _, _ => Option.none

/-- The double a value stands for without loss. -/
def exactDouble? : Value → Option Float
  | int n => if wholeOf? (floatOf n) = some n then some (floatOf n) else Option.none
  | v => v.double?

/-- Two values brought to a common form without loss. -/
def exactPair? : Value → Value → Option Pair
  | float a, b => b.exactDouble?.map (.floats a ·)
  | a, float b => a.exactDouble?.map (.floats · b)
  | a, b => pair? a b

/-- The place of a double among all doubles: by size, after what is no number.
Both zeros have one place. -/
def floatKey (x : Float) : Int :=
  let bits : Nat := x.toBits.toNat
  if x.isNaN then -twoTo 64 else if bits < twoTo 63 then bits else twoTo 63 - (bits : Int)

/-- A whole number against a double. -/
def compareWhole (n : Int) (x : Float) : Ordering :=
  match wholeOf? x with
  | some m => compare n m
  | Option.none => compare (floatKey (floatOf n)) (floatKey x)

/-- Two values that have neither items nor entries, of one kind. -/
def compareAtoms : Value → Value → Ordering
  | bool a, bool b => compare a.toNat b.toNat
  | int a, int b => compare a b
  | int a, float b => compareWhole a b
  | float a, int b => (compareWhole b a).swap
  | float a, float b => compare (floatKey a) (floatKey b)
  | string a _, string b _ => compare a b
  | bytes a, bytes b => compare (a.map (·.toNat)) (b.map (·.toNat))
  | object a, object b => compare (String.ofList a.display) (String.ofList b.display)
  | _, _ => .eq

mutual

def order : Value → Value → Ordering
  | group k a _, group l b _ => (order k l).then (orderItems a b)
  | group k a _, seq [l, iterator b _ _] _ => (order k l).then (orderItems a b)
  | seq [k, iterator a _ _] _, group l b _ => (order k l).then (orderItems a b)
  | seq a _, seq b _ => orderItems a b
  | iterator a _ _, iterator b _ _ => orderItems a b
  | map a _ _, map b _ _ => orderEntries a b
  | a, b =>
    match compare a.kind.rank b.kind.rank with
    | .eq => compareAtoms a b
    | o => o
termination_by structural v => v

/-- The order of item lists: by the first difference. -/
def orderItems : List Value → List Value → Ordering
  | [], [] => .eq
  | [], _ :: _ => .lt
  | _ :: _, [] => .gt
  | a :: as, b :: bs => (order a b).then (orderItems as bs)
termination_by structural vs => vs

/-- The order of entry lists: by the first difference. -/
def orderEntries : List (Value × Value) → List (Value × Value) → Ordering
  | [], [] => .eq
  | [], _ :: _ => .lt
  | _ :: _, [] => .gt
  | a :: as, b :: bs => (orderEntry a b).then (orderEntries as bs)
termination_by structural es => es

/-- The order of entries: by key, then by value. -/
def orderEntry : Value × Value → Value × Value → Ordering
  | (k, v), (l, w) => (order k l).then (order v w)
termination_by structural e => e

end

/-- Equality of values that have neither items nor entries. -/
def sameAtom : Value → Value → Bool
  | undefined _, undefined _ => true
  | none, none => true
  | bytes a, bytes b => a == b
  | object a, object b => a == b || a.display == b.display
  | a, b =>
    match exactPair? a b with
    | some (.ints m n) => m == n
    | some (.floats x y) => x == y
    | some (.strings s t) => s == t
    | Option.none => false

mutual

/-- Equality of values. A sequence equals an iterator with the same items. -/
def same : Value → Value → Bool
  | seq a _, seq b _ => sameItems a b
  | seq a _, iterator b _ _ => sameItems a b
  | iterator a _ _, seq b _ => sameItems a b
  | iterator a _ _, iterator b _ _ => sameItems a b
  | group k a _, group l b _ => same k l && sameItems a b
  | group k a _, seq [l, seq b _] _ => same k l && sameItems a b
  | group k a _, seq [l, iterator b _ _] _ => same k l && sameItems a b
  | seq [k, seq a _] _, group l b _ => same k l && sameItems a b
  | seq [k, iterator a _ _] _, group l b _ => same k l && sameItems a b
  | map a _ _, map b _ _ => sameEntries a b
  | a, b => sameAtom a b
termination_by structural v => v

/-- Equality item by item. -/
def sameItems : List Value → List Value → Bool
  | [], [] => true
  | a :: as, b :: bs => same a b && sameItems as bs
  | _, _ => false
termination_by structural vs => vs

/-- Equality entry by entry; the entries are in the order of their keys. -/
def sameEntries : List (Value × Value) → List (Value × Value) → Bool
  | [], [] => true
  | a :: as, b :: bs => sameEntry a b && sameEntries as bs
  | _, _ => false
termination_by structural es => es

/-- Equality of key and value; keys are equal when they have one place in the
order. -/
def sameEntry : Value × Value → Value × Value → Bool
  | (k, v), (l, w) => order k l == .eq && same v w
termination_by structural e => e

end

/-- Put an entry among others, in the order of keys; an entry with an equal key
is replaced. -/
def insertEntry (k v : Value) : List (Value × Value) → List (Value × Value)
  | [] => [(k, v)]
  | (l, w) :: rest =>
    match order k l with
    | .lt => (k, v) :: (l, w) :: rest
    | .eq => (l, v) :: rest
    | .gt => (l, w) :: insertEntry k v rest

/-- The map of some entries, in which a later equal key replaces an earlier
one. -/
def ofEntries (es : List (Value × Value)) : List (Value × Value) :=
  es.foldl (fun acc e => insertEntry e.1 e.2 acc) []

/-- Of neighbours with equal keys the last one. -/
def lastOfEqual : List (Value × Value) → List (Value × Value)
  | [] => []
  | e :: es =>
    match es with
    | [] => [e]
    | f :: _ => if e.1.same f.1 then lastOfEqual es else e :: lastOfEqual es

/-- The map of some pairs, sorted by their keys; of equal keys the last one
counts, with its value. -/
def ofPairs (es : List (Value × Value)) : List (Value × Value) :=
  lastOfEqual (es.mergeSort fun a b => a.1.order b.1 != .gt)

/-- The value of the entry whose key has the same place in the order. -/
def entry? (k : Value) (es : List (Value × Value)) : Option Value :=
  (es.find? fun e => order e.1 k == .eq).map (·.2)

end Value

end ScriptedTemplate
