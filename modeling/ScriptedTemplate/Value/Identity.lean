import ScriptedTemplate.Value.Order

/-
  Identity — when two values are one and the same

  Numbers, texts and the like are the same when they are equal and of one kind,
  a whole number and a float being of two. Containers are the same when they
  have the same identity, so one that has none is the same as no other. Handles,
  and maps that stand for one, are the same when they refer to the same thing.

  `identify` gives an identity to every container in a value that has none. A
  container that has one holds only such as have one too.
-/

namespace ScriptedTemplate

namespace Value

/-- Whether the value is a container without an identity. -/
def isNew : Value → Bool
  | seq _ Option.none => true
  | iterator _ _ Option.none => true
  | group _ _ Option.none => true
  | map _ _ Option.none => true
  | _ => false

mutual

/-- The value with an identity for every container in it, new ones counted from
`n`, and the number after the last of them. -/
def identify : Value → Nat → Value × Nat
  | seq items Option.none, n =>
    if items.any isNew then
      let (items, next) := identifyAll items (n + 1)
      (seq items (some n), next)
    else (seq items (some n), n + 1)
  | iterator items sized Option.none, n =>
    if items.any isNew then
      let (items, next) := identifyAll items (n + 1)
      (iterator items sized (some n), next)
    else (iterator items sized (some n), n + 1)
  | group key members Option.none, n =>
    let (key, next) := identify key (n + 1)
    let (members, next) := identifyAll members next
    (group key members (some n), next)
  | map entries role Option.none, n =>
    let (entries, next) := identifyEntries entries (n + 1)
    (map entries role (some n), next)
  | v, n => (v, n)
termination_by structural v => v

def identifyAll : List Value → Nat → List Value × Nat
  | [], n => ([], n)
  | v :: vs, n =>
    let (v, next) := identify v n
    let (vs, next) := identifyAll vs next
    (v :: vs, next)
termination_by structural vs => vs

def identifyEntries : List (Value × Value) → Nat → List (Value × Value) × Nat
  | [], n => ([], n)
  | e :: es, n =>
    let (e, next) := identifyEntry e n
    let (es, next) := identifyEntries es next
    (e :: es, next)
termination_by structural es => es

def identifyEntry : Value × Value → Nat → (Value × Value) × Nat
  | (k, v), n =>
    let (k, next) := identify k n
    let (v, next) := identify v next
    ((k, v), next)
termination_by structural e => e

end

/-- What tells a value apart from equal ones, if anything does. -/
inductive Identity where
  | equality
  | container (id : Option Nat)
  | handle (h : Handle)

/-- How a value is told apart from equal ones. -/
def identity : Value → Identity
  | seq _ id => .container id
  | iterator _ _ id => .container id
  | group _ _ id => .container id
  | map _ (.space id) _ => .handle (.space id)
  | map _ (.loop id _ _) _ => .handle (.loop id)
  | map _ _ id => .container id
  | object h => .handle h
  | _ => .equality

/-- Whether the value is a whole number, and not as a float. -/
def isWhole : Value → Bool
  | int _ => true
  | _ => false

/-- Whether two values are one and the same. -/
def isIdentical (a b : Value) : Bool :=
  match a.identity, b.identity with
  | .equality, .equality => a.kind == b.kind && a.isWhole == b.isWhole && a.same b
  | .container (some i), .container (some j) => i == j
  | .handle g, .handle h => g == h
  | _, _ => false

end Value

end ScriptedTemplate
