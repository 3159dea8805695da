import ScriptedTemplate.Value.Basic
import ScriptedTemplate.Script.Operator

/-
  Trees — programs as statements and expressions

  A node that can fail keeps the line at which its failure shows. That line is
  the one the reader of the tree had come to when it had dealt with the node's
  parts, so most nodes have it from the last part that stands on a line of its
  own (`Expr.lineAfter`). An expression computed beforehand counts with the line
  on which it begins.
-/

namespace ScriptedTemplate

mutual

/-- An expression. -/
inductive Expr where
  /-- A literal. -/
  | literal (v : Value) (line : Nat)
  /-- A value that is not written but meant. -/
  | implied (v : Value)
  /-- An expression without names whose value is known beforehand. -/
  | known (v : Value) (e : Expr) (line : Nat)
  | name (s : String) (line : Nat)
  | list (items : List Expr) (line : Nat)
  | map (entries : List Entry) (line : Nat)
  | negation (e : Expr) (line : Nat)
  | opposite (e : Expr) (line : Nat)
  | binary (op : Operator) (left right : Expr) (line : Nat)
  /-- Comparisons in a row, each with the operand of the one before. -/
  | compared (first : Expr) (links : List Comparison)
  /-- The second expression if the first is true, otherwise the third. -/
  | choice (test yes no : Expr) (line : Nat)
  | member (e : Expr) (memberName : String) (line : Nat)
  | item (e key : Expr) (line : Nat)
  | slice (e start stop step : Expr) (line : Nat)
  | call (callee : Expr) (args : List Argument) (line : Nat)
  | filter (e : Expr) (filterName : String) (args : List Argument) (line : Nat)
  | test (e : Expr) (testName : String) (args : List Argument) (line : Nat)

/-- A comparison with what stands before it; a negated one holds when the
operator's does not. -/
inductive Comparison where
  | mk (op : Operator) (negated : Bool) (right : Expr) (line : Nat)

/-- A key and its value. -/
inductive Entry where
  | mk (key value : Expr)

/-- An argument of a call. -/
inductive Argument where
  | plain (e : Expr)
  /-- Every item is an argument. -/
  | spread (e : Expr)
  | named (argument : String) (e : Expr)
  /-- Every entry is a named argument. -/
  | spreadNamed (e : Expr)

end

namespace Expr

instance : Inhabited Expr := ⟨implied .none⟩

def isLiteral : Expr → Bool
  | literal _ _ => true
  | _ => false

end Expr

/-- Whether a named argument is a literal; arguments without a name are let
pass. -/
def Argument.isSettled : Argument → Bool
  | plain _ => true
  | spread _ => true
  | named _ e => e.isLiteral
  | spreadNamed _ => false

def lineAfterLinks (n : Nat) : List Comparison → Nat
  | [] => n
  | .mk _ _ _ line :: cs => lineAfterLinks line cs

mutual

/-- The line that the reader of an expression comes to from line `n`. -/
def Expr.lineAfter (n : Nat) : Expr → Nat
  | .literal _ line => line
  | .implied _ => n
  | .known _ _ line => line
  | .name _ line => line
  | .list items line => lineAfterItems line items
  | .map entries line => lineAfterEntries line entries
  | .negation e line => e.lineAfter line
  | .opposite e line => e.lineAfter line
  | .binary _ _ _ line => line
  | .compared first links => lineAfterLinks (first.lineAfter n) links
  | .choice _ yes no line => no.lineAfter (yes.lineAfter line)
  | .member _ _ line => line
  | .item _ _ line => line
  | .slice _ _ _ _ line => line
  | .call _ _ line => line
  | .filter _ _ _ line => line
  | .test _ _ _ line => line
termination_by structural e => e

def lineAfterItems (n : Nat) : List Expr → Nat
  | [] => n
  | e :: es => lineAfterItems (e.lineAfter n) es
termination_by structural es => es

def lineAfterEntries (n : Nat) : List Entry → Nat
  | [] => n
  | e :: es => lineAfterEntries (lineAfterEntry n e) es
termination_by structural es => es

def lineAfterEntry (n : Nat) : Entry → Nat
  | .mk k v => v.lineAfter (k.lineAfter n)
termination_by structural e => e

end

/-- The line after the arguments without a name. -/
def lineAfterPlain (n : Nat) : List Argument → Nat
  | [] => n
  | .plain e :: rest => lineAfterPlain (e.lineAfter n) rest
  | .spread e :: rest => lineAfterPlain (e.lineAfter n) rest
  | _ :: rest => lineAfterPlain n rest

def lineAfterNamed (n : Nat) : List Argument → Nat
  | [] => n
  | .named _ e :: rest => lineAfterNamed (e.lineAfter n) rest
  | .spreadNamed e :: rest => lineAfterNamed (e.lineAfter n) rest
  | _ :: rest => lineAfterNamed n rest

/-- The line after arguments: those without a name come first, and named ones
count only when one of them is no literal, or when `all` is set. -/
def lineAfterArguments (all : Bool) (n : Nat) (args : List Argument) : Nat :=
  let n := lineAfterPlain n args
  if args.all Argument.isSettled && !all then n else lineAfterNamed n args

/-- The comparison that follows others, which begin on `line` with `first`. -/
def Comparison.after (first : Expr) (links : List Comparison) (line : Nat) (op : Operator)
    (negated : Bool) (right : Expr) : Comparison :=
  mk op negated right (right.lineAfter (lineAfterLinks (first.lineAfter line) links))

namespace Expr

def mkBinary (op : Operator) (left right : Expr) (line : Nat) : Expr :=
  binary op left right (right.lineAfter (left.lineAfter line))

/-- A choice that begins on `line`; its test is what can fail. -/
def mkChoice (test yes no : Expr) (line : Nat) : Expr := choice test yes no (test.lineAfter line)

def mkMember (e : Expr) (memberName : String) (line : Nat) : Expr :=
  member e memberName (e.lineAfter line)

def mkItem (e key : Expr) (line : Nat) : Expr := item e key (key.lineAfter (e.lineAfter line))

def mkSlice (e start stop step : Expr) (line : Nat) : Expr :=
  slice e start stop step (lineAfterItems line [e, start, stop, step])

/-- Whether an expression stands for the program itself, whose members are its
blocks. -/
def isOwn : Expr → Bool
  | name s _ => s == "self"
  | _ => false

/-- The line after what a call calls; a name that is called has none. -/
def lineAfterCallee (n : Nat) : Expr → Nat
  | name _ _ => n
  | member e _ _ => if e.isOwn then n else e.lineAfter n
  | e => e.lineAfter n

def mkCall (callee : Expr) (args : List Argument) (line : Nat) : Expr :=
  call callee args (lineAfterArguments false (callee.lineAfterCallee line) args)

def mkFilter (e : Expr) (filterName : String) (args : List Argument) (line : Nat) : Expr :=
  filter e filterName args (lineAfterArguments false (e.lineAfter line) args)

def mkTest (e : Expr) (testName : String) (args : List Argument) (line : Nat) : Expr :=
  test e testName args (lineAfterArguments false (e.lineAfter line) args)

def describe : Expr → String
  | name _ _ => "variable"
  | literal _ _ => "constant"
  | implied _ => "constant"
  | known _ e _ => e.describe
  | call _ _ _ => "call"
  | list _ _ => "list literal"
  | map _ _ => "map literal"
  | test _ _ _ _ => "test expression"
  | filter _ _ _ _ => "filter expression"
  | _ => "expression"

end Expr

/-- What can be assigned to. -/
inductive Target where
  | name (s : String) (line : Nat)
  /-- The parts of a sequence. -/
  | parts (ts : List Target) (line : Nat)
  | member (e : Expr) (memberName : String)

/-- A filter of a filtered block. -/
structure Sieve where
  filterName : String
  args : List Argument
  line : Nat

mutual

/-- A statement. -/
inductive Statement where
  | text (t : Text) (line : Nat)
  | shown (e : Expr) (line : Nat)
  | loop (target : Target) (items : Expr) (keep : Option Expr) (recursive : Bool)
    (body otherwise : List Statement) (line : Nat)
  | branch (test : Expr) (yes no : List Statement) (line : Nat)
  | scope (bindings : List (Target × Expr)) (body : List Statement) (line : Nat)
  | assign (target : Target) (e : Expr) (line : Nat)
  | capture (target : Target) (sieves : List Sieve) (body : List Statement) (line : Nat)
  | escaping (mode : Expr) (body : List Statement) (line : Nat)
  | sieved (sieves : List Sieve) (body : List Statement) (line : Nat)
  /-- A named block; a required one has nothing to show and must not run. -/
  | block (blockName : String) (required : Bool) (body : List Statement) (line : Nat)
  | parent (e : Expr) (line : Nat)
  | inclusion (e : Expr) (optional : Bool) (line : Nat)
  | imported (e : Expr) (line : Nat)
  | define (r : Definition)
  /-- A call with a routine of its own, `caller`. -/
  | callWith (callee : Expr) (args : List Argument) (r : Definition) (line : Nat)
  | perform (callee : Expr) (args : List Argument) (line : Nat)

/-- A routine: its name, its parameters, the defaults of the last of them, and
its body. -/
inductive Definition where
  | mk (routineName : String) (parameters : List String) (defaults : List Expr)
    (body : List Statement) (line : Nat)

end

/-- A block of a program, which can be run by its name. -/
structure Block where
  blockName : String
  required : Bool
  body : List Statement

namespace Definition

def routineName : Definition → String
  | mk n _ _ _ _ => n

def parameters : Definition → List String
  | mk _ ps _ _ _ => ps

def defaults : Definition → List Expr
  | mk _ _ ds _ _ => ds

def body : Definition → List Statement
  | mk _ _ _ b _ => b

end Definition

namespace Target

def lineAfter (n : Nat) : Target → Nat
  | name _ _ => n
  | parts _ line => line
  | member e _ => e.lineAfter n

end Target

/-- The line after the filters of a block. -/
def lineAfterSieves (n : Nat) (sieves : List Sieve) : Nat :=
  match sieves.getLast? with
  | none => n
  | some s => s.line

mutual

/-- The line that the reader of a statement comes to from line `n`. -/
def Statement.lineAfter (n : Nat) : Statement → Nat
  | .text _ line => line
  | .shown e line => e.lineAfter line
  | .loop target items keep _ body otherwise line =>
    let start := target.lineAfter (items.lineAfter line)
    let start :=
      match keep with
      | none => start
      | some e => target.lineAfter (e.lineAfter start)
    lineAfterAll (lineAfterAll start body) otherwise
  | .branch test yes no line => lineAfterAll (lineAfterAll (test.lineAfter line) yes) no
  | .scope _ body line => lineAfterAll line body
  | .assign target e line => target.lineAfter (e.lineAfter line)
  | .capture target sieves body line =>
    target.lineAfter (lineAfterSieves (lineAfterAll line body) sieves)
  | .escaping _ body line => lineAfterAll line body
  | .sieved sieves body line => lineAfterSieves (lineAfterAll line body) sieves
  | .block _ _ _ line => line
  | .parent e line => e.lineAfter line
  | .inclusion e _ line => e.lineAfter line
  | .imported e _ => e.lineAfter n
  | .define r => r.lineAfter
  | .callWith _ _ _ line => line
  | .perform _ _ line => line
termination_by structural s => s

def lineAfterAll (n : Nat) : List Statement → Nat
  | [] => n
  | s :: rest => lineAfterAll (s.lineAfter n) rest
termination_by structural ss => ss

def Definition.lineAfter : Definition → Nat
  | .mk _ _ defaults body line => lineAfterAll (lineAfterItems line defaults.reverse) body
termination_by structural r => r

end

end ScriptedTemplate
