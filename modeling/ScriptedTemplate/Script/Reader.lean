import ScriptedTemplate.Script.Constant
import ScriptedTemplate.Script.Lexer

/-
  Readers — what takes tokens off a program

  A reader takes tokens from the front and answers what they mean, or a fault.
  A fault of the grammar is placed at the last token taken; what is no token is
  at fault only once a reader looks at it.
-/

namespace ScriptedTemplate

/-- The tokens not yet taken, what is wrong behind them, and the line of the
last token taken. -/
structure Stream where
  rest : List Placed
  fault : Option (GrammarFault × Nat)
  last : Nat
  /-- How many tokens there were at first. -/
  total : Nat
  /-- The blocks named so far. -/
  blocks : List String
  /-- Whether the tokens belong to the body of a routine. -/
  inRoutine : Bool
  /-- The next identity of a constant. -/
  identity : Nat

/-- What takes tokens. -/
abbrev Reader (α : Type) := StateT Stream (Except Fault) α

namespace Reader

/-- The stream of the tokens of a program. -/
def ofTokens (t : TokenList) : Stream := ⟨t.tokens, t.fault, 0, t.tokens.length, [], false, 0⟩

def fail {α : Type} (g : GrammarFault) : Reader α :=
  fun s => .error ⟨.grammar g, some s.last⟩

def peek : Reader (Option Token) := fun s =>
  match s.rest with
  | p :: _ =>
    match p.token with
    | .badString => .error ⟨.badEscape, some s.last⟩
    | t => .ok (some t, s)
  | [] =>
    match s.fault with
    | some (f, line) => .error ⟨.grammar f, some line⟩
    | none => .ok (none, s)

/-- The next token; where it is none, the tokens end. -/
def peekOrEnd : Reader (Option Token) := fun s =>
  match peek s with
  | .ok found => .ok found
  | .error _ => .ok (none, { s with rest := [], fault := none })

def line : Reader Nat := fun s =>
  match s.rest with
  | p :: _ => .ok (p.line, s)
  | [] => .ok (s.last, s)

def lastLine : Reader Nat := fun s => .ok (s.last, s)

/-- Take the next token, if there is one. -/
def next : Reader (Option Token) := do
  let t ← peek
  match t with
  | none => return none
  | some t => fun s =>
    match s.rest with
    | p :: rest => .ok (some t, { s with rest := rest, last := p.line })
    | [] => .ok (some t, s)

/-- Take the next token, which must mean something to `f`; `wanted` says what. -/
def expect {α : Type} (wanted : String) (f : Token → Option α) : Reader α := do
  match ← next with
  | none => fail (.expected "end of input" wanted)
  | some t =>
    match f t with
    | some a => return a
    | none => fail (.expected t.describe wanted)

/-- What a token must be for `accept` and `upcoming`. -/
abbrev Check := Token → Bool

/-- Take the next token if it is the one. -/
def accept (c : Check) : Reader Bool := do
  match ← peek with
  | some t => if c t then do let _ ← next; return true else return false
  | none => return false

def upcoming (c : Check) : Reader Bool := do
  match ← peek with
  | some t => return c t
  | none => return false

def mark (m : Mark) : Reader Unit :=
  expect ("\x60" ++ m.text ++ "\x60") fun t => if t.isMark m then some () else none

def word (s wanted : String) : Reader Unit :=
  expect wanted fun t => if t.isName s then some () else none

def anyName : Reader String :=
  expect "identifier" fun
    | .name s => some s
    | _ => none

/-- Whether a token is the end of a block. -/
def isBlockEnd : Check
  | .blockEnd => true
  | _ => false

/-- Whether a token is the end of an expression to be shown. -/
def isShowEnd : Check
  | .showEnd => true
  | _ => false

def blockEnd : Reader Unit :=
  expect "end of block" fun t => if isBlockEnd t then some () else none

/-- More than the number of tokens, which bounds the length of everything that
is still to be read. -/
def size : Reader Nat := fun s => .ok (s.total + 1, s)

/-- Read in the body of a routine, or outside of one. -/
def within {α : Type} (routine : Bool) (r : Reader α) : Reader α := fun s =>
  match r { s with inRoutine := routine } with
  | .ok (a, t) => .ok (a, { t with inRoutine := s.inRoutine })
  | .error e => .error e

def enterBlock (s : String) : Reader Unit := fun st =>
  if st.blocks.contains s then .error ⟨.grammar (.blockTwice s), some st.last⟩
  else .ok ((), { st with blocks := s :: st.blocks })

/-- An expression that begins on `line`, computed now if it is constant. -/
def settle (e : Expr) (line : Nat) : Reader Expr := fun s =>
  match e.compute? with
  | none => .ok (e, s)
  | some v =>
    let (v, next) := v.identify s.identity
    .ok (.known v e line, { s with identity := next })

/-- Whether reading is in the body of a routine. -/
def isInRoutine : Reader Bool := fun s => .ok (s.inRoutine, s)

end Reader

end ScriptedTemplate
