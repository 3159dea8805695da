import ScriptedTemplate.Script.Call
import ScriptedTemplate.Script.Grammar

/-
  Evaluation — running a script

  Expressions and statements are run part by part, in the order in which they
  are written; of `and`, `or` and a choice only the parts that are needed. What
  would run the body of something else again — a routine, a loop that is called,
  a block — goes one level deeper, and the limit on the depth of frames is
  reached before the levels are used up.
-/

namespace ScriptedTemplate

namespace Evaluate

open Run

/-- Arguments as they have been evaluated: those without a name, each with
whether its items are the arguments, and those with a name, or without one when
their entries are the arguments. -/
structure Evaluated where
  plain : List (Bool × Value)
  named : List (Option String × Value)

/-- The entries of a container; those of one that is no map have places for
keys. -/
def entriesOf? : Value → Option (List (Value × Value))
  | .map es _ _ => some es
  | v => (Operation.contents? v).map fun vs => vs.zipIdx.map fun p => (.ofNat p.2, p.1)

def namedEntries : List (Option String × Value) → Run (List (Value × Value))
  | [] => return []
  | (some s, v) :: rest => do return (.ofString s, v) :: (← namedEntries rest)
  | (none, v) :: rest => do
    let m ← get
    match m.view v with
    | .undefined false => stop .undefinedValue
    | w =>
      match entriesOf? w with
      | some es => return m.keepEntries es ++ (← namedEntries rest)
      | none => stop (.notKeywords w.kind)

def plainValues : List (Bool × Value) → Run (List Value)
  | [] => return []
  | (false, v) :: rest => do return v :: (← plainValues rest)
  | (true, v) :: rest => do
    let m ← get
    let vs ← lift (Operation.walk (m.view v))
    return vs.map m.keep ++ (← plainValues rest)

/-- The arguments of a call: the named ones come last, as one map. -/
def gather (e : Evaluated) : Run (List Value) := do
  let entries ← namedEntries e.named
  let plain ← plainValues e.plain
  return if e.named.isEmpty then plain else plain ++ [.map (Value.ofEntries entries) .keywords none]

/-- Whether a value is undefined and nothing can be said of it. -/
def isUnknown : Value → Bool
  | .undefined silent => !silent
  | _ => false

/-- What an operator makes of two values at this moment. Undefined values can be
neither compared nor joined. -/
def binary (op : Operator) (a b : Value) : Run Value := do
  if (op.isComparison || op == .join) && (isUnknown a || isUnknown b) then stop .undefinedValue
  let m ← get
  match op with
  | .join => return .ofText (m.textOf a ++ m.textOf b)
  | op => identified (m.keep (← lift (Operation.apply op (m.view a) (m.view b))))

/-- The member of a value at this moment. -/
def member (v : Value) (s : String) : Run Value := do
  match Call.member? (← get) v s with
  | some w => identified (← valid w)
  | none => if v.isUndefined then stop .undefinedValue else return .undefined false

/-- The item of a value under a key at this moment. -/
def item (v key : Value) : Run Value := do
  let m ← get
  let found :=
    match v, key with
    | .object _, .string s _ => Call.member? m v s
    | v, key => Operation.item? v (m.view key)
  match found with
  | some w => identified (← valid w)
  | none => if v.isUndefined then stop .undefinedValue else return .undefined false

/-- The part of a value between two places. -/
def slice (v start stop step : Value) : Run Value := do
  if v.isUndefined then Run.stop .undefinedValue
  identified (← lift (Operation.slice v start stop step))

mutual

def expr (h : Host) (re : Reentry) : Expr → Run Value
  | .literal v _ => return v
  | .implied v => return v
  | .known v _ _ => return v
  | .name s line => do at_ line (valid (((← get).lookup s).getD (.undefined false)))
  | .list es _ => do identified (.ofItems (← exprs h re es))
  | .map es _ => do identified (.ofMap (Value.ofEntries (← entries h re es)))
  | .negation e line => do
    let v ← expr h re e
    at_ (e.lineAfter line) do return .bool !(← Call.truth v)
  | .opposite e line => do
    let v ← expr h re e
    at_ line (lift (Operation.opposite v))
  | .binary op l r line => do
    let a ← expr h re l
    match op with
    | .and => if ← at_ (l.lineAfter line) (Call.truth a) then expr h re r else return a
    | .or => if ← at_ (l.lineAfter line) (Call.truth a) then return a else expr h re r
    | op => do
      let b ← expr h re r
      at_ line (binary op a b)
  | .compared first links => do
    let a ← expr h re first
    links_ h re a links
  | .choice test yes no line => do
    let v ← expr h re test
    if ← at_ line (Call.truth v) then expr h re yes else expr h re no
  | .member e s line => do
    let v ← expr h re e
    at_ line (member v s)
  | .item e key line => do
    let v ← expr h re e
    let k ← expr h re key
    at_ line (item v k)
  | .slice e start stop step line => do
    let v ← expr h re e
    let a ← expr h re start
    let b ← expr h re stop
    let c ← expr h re step
    at_ line (slice v a b c)
  | .call (.name s _) args line => do
    let evaluated ← arguments h re args
    at_ line do identified (← Call.named h re s (← gather evaluated))
  | .call (.member e s _) args line => do
    if e.isOwn then at_ line (capturedValue (Call.blockNamed re s))
    else
      let v ← expr h re e
      let evaluated ← arguments h re args
      at_ line do identified (← Call.method h re v s (← gather evaluated))
  | .call f args line => do
    let v ← expr h re f
    let evaluated ← arguments h re args
    at_ line do identified (← Call.value h re v (← gather evaluated))
  | .filter e s args line => do
    let v ← expr h re e
    let evaluated ← arguments h re args
    at_ line do identified (← Call.filter h s (v :: (← gather evaluated)))
  | .test e s args line => do
    let v ← expr h re e
    let evaluated ← arguments h re args
    at_ line do Call.test h s (v :: (← gather evaluated))
termination_by structural e => e

/-- Whether comparisons hold, one after the other up to the first that does not;
`a` is what stands before them. -/
def links_ (h : Host) (re : Reentry) (a : Value) : List Comparison → Run Value
  | [] => return .bool true
  | c :: cs => do
    let (holds, b) ← link h re a c
    if holds then links_ h re b cs else return .bool false
termination_by structural cs => cs

/-- Whether a comparison holds, and its right operand. -/
def link (h : Host) (re : Reentry) (a : Value) : Comparison → Run (Bool × Value)
  | .mk op negated e line => do
    let b ← expr h re e
    let v ← at_ line (binary op a b)
    return (v.isTrue != negated, b)
termination_by structural c => c

def exprs (h : Host) (re : Reentry) : List Expr → Run (List Value)
  | [] => return []
  | e :: es => do
    let v ← expr h re e
    return v :: (← exprs h re es)
termination_by structural es => es

def entries (h : Host) (re : Reentry) : List Entry → Run (List (Value × Value))
  | [] => return []
  | e :: es => do
    let v ← entry h re e
    return v :: (← entries h re es)
termination_by structural es => es

def entry (h : Host) (re : Reentry) : Entry → Run (Value × Value)
  | .mk k v => do
    let key ← expr h re k
    return (key, ← expr h re v)
termination_by structural e => e

/-- The values of arguments, those without a name first. -/
def arguments (h : Host) (re : Reentry) : List Argument → Run Evaluated
  | [] => return ⟨[], []⟩
  | a :: rest => do
    let first ← argument h re a
    let more ← arguments h re rest
    return ⟨first.plain ++ more.plain, first.named ++ more.named⟩
termination_by structural args => args

def argument (h : Host) (re : Reentry) : Argument → Run Evaluated
  | .plain e => do return ⟨[(false, ← expr h re e)], []⟩
  | .spread e => do return ⟨[(true, ← expr h re e)], []⟩
  | .named s e => do return ⟨[], [(some s, ← expr h re e)]⟩
  | .spreadNamed e => do return ⟨[], [(none, ← expr h re e)]⟩
termination_by structural a => a

end

/-- The value of a call that is given a routine of its own besides its
arguments. -/
def callWith (h : Host) (re : Reentry) (f : Expr) (args : List Argument) (d : Definition)
    (line : Nat) : Run Value := do
  let complete : Run (List Value) := do
    let evaluated ← arguments h re args
    let caller ← Call.define d
    gather { evaluated with named := evaluated.named ++ [(some "caller", caller)] }
  match f with
  | .name s _ =>
    let args ← at_ line complete
    at_ line (Call.named h re s args)
  | .member e s _ =>
    if e.isOwn then at_ line (capturedValue (Call.blockNamed re s))
    else
      let v ← expr h re e
      let args ← at_ line complete
      at_ line (Call.method h re v s args)
  | f =>
    let v ← expr h re f
    let args ← at_ line complete
    at_ line (Call.value h re v args)

def sieve (h : Host) (re : Reentry) : List Sieve → Value → Run Value
  | [], v => return v
  | s :: rest, v => do
    let evaluated ← arguments h re s.args
    let w ← at_ s.line do identified (← Call.filter h s.filterName (v :: (← gather evaluated)))
    sieve h re rest w

/-- Whether text is to be escaped for HTML, given what was asked for. -/
def escapingOf (v : Value) : Except Cause Bool :=
  match v with
  | .string "html" _ => .ok true
  | .string "none" _ => .ok false
  | .string _ _ => .error .badEscaping
  | v => .ok (v.same (.bool true))

/-- The names of the programs that an inclusion tries. -/
def programNames (v : Value) : Except Cause (List String) :=
  match v with
  | .seq vs _ => vs.mapM name
  | .iterator vs _ _ => vs.mapM name
  | .map es _ _ => es.mapM fun e => name e.1
  | v => do return [← name v]
where
  /-- The name of a program. -/
  name : Value → Except Cause String
    | .string s _ => .ok s
    | _ => .error .notTemplateName

/-- Include one of some programs; there are none, so this fails unless nothing
has to be included. -/
def inclusion (v : Value) (optional : Bool) : Run Unit := do
  match ← lift (programNames ((← get).view v)) with
  | [] => return ()
  | [s] => if optional then return () else stop (.templateNotIncluded s)
  | names =>
    if optional then return ()
    else stop (.templatesNotIncluded (Value.ofItems (names.map Value.ofString)).displayString)

/-- The bindings of a scope, one after the other. -/
def bindAll (h : Host) (re : Reentry) : List (Target × Expr) → Run Unit
  | [] => return ()
  | (t, e) :: rest => do
    let v ← expr h re e
    Call.assign (expr h re) t v
    bindAll h re rest

/-- The items for which the condition of a loop holds. -/
def kept (h : Host) (re : Reentry) (t : Target) (e : Expr) (line : Nat) :
    List Value → Run (List Value)
  | [] => return []
  | v :: vs => do
    let v ← valid v
    clearFrame
    Call.assign (expr h re) t v
    let w ← expr h re e
    let holds ← at_ (e.lineAfter line) (Call.truth w)
    let rest ← kept h re t e line vs
    return if holds then v :: rest else rest

/-- The items that a loop goes over, and whether their number is known
beforehand. -/
def loopItems (h : Host) (re : Reentry) (t : Target) (e : Expr) (keep : Option Expr) (line : Nat) :
    Run (List Value × Bool) := do
  let v ← expr h re e
  let (vs, sized) ← at_ (e.lineAfter line) (Call.items v)
  match keep with
  | none => return (vs, sized)
  | some condition => do
    let m ← get
    let i := m.loops.size
    set { m with loops := m.loops.push ⟨[], none, vs, sized, 0, none, none⟩ }
    let vs ← at_ line (withFrame { loop := some (i, false) } (kept h re t condition line vs))
    return (vs, true)

mutual

def statement (h : Host) (re : Reentry) : Statement → Run Unit
  | .text t _ => write t
  | .shown e line => do
    let v ← expr h re e
    at_ (e.lineAfter line) (Call.display v)
  | .loop t e keep recursive body otherwise line => do
    let (vs, sized) ← loopItems h re t e keep line
    let again := if recursive then some (t, body) else none
    at_ (e.lineAfter line)
      (Call.loop (Call.assign (expr h re) t) (statements h re body) again vs sized)
    if vs.isEmpty then statements h re otherwise
  | .branch test yes no line => do
    let v ← expr h re test
    if ← at_ (test.lineAfter line) (Call.truth v) then statements h re yes
    else statements h re no
  | .scope bs body line => at_ line (withFrame {} do
      bindAll h re bs
      statements h re body)
  | .assign t e _ => do
    let v ← expr h re e
    Call.assign (expr h re) t v
  | .capture t ss body _ => do
    let v ← capturedValue (statements h re body)
    let v ← sieve h re ss v
    Call.assign (expr h re) t v
  | .escaping mode body line => do
    let v ← expr h re mode
    let before := (← get).escapes
    let escapes ← at_ (mode.lineAfter line) (lift (escapingOf v))
    modify fun m => { m with escapes := escapes }
    statements h re body
    modify fun m => { m with escapes := before }
  | .sieved ss body line => do
    let v ← capturedValue (statements h re body)
    let v ← sieve h re ss v
    at_ (lineAfterSieves line ss) (Call.display v)
  | .block s required body line => at_ line (Call.block s required (statements h re body))
  | .parent e line => do
    match ← expr h re e with
    | .string s _ => at_ line (stop (.templateNotFound s))
    | _ => at_ line (stop .notTemplateName)
  | .inclusion e optional line => do
    let v ← expr h re e
    at_ line (inclusion v optional)
  | .imported e line => do
    let v ← expr h re e
    at_ line (inclusion v false)
  | .define d => do
    let v ← Call.define d
    store d.routineName v
  | .callWith f args d line => do
    let v ← callWith h re f args d line
    at_ line (Call.display v)
  | .perform f args line => do
    let _ ← expr h re (.call f args line)
termination_by structural s => s

def statements (h : Host) (re : Reentry) : List Statement → Run Unit
  | [] => return ()
  | s :: rest => do
    statement h re s
    statements h re rest
termination_by structural ss => ss

end

/-- Evaluation with so many levels to go deeper. -/
def level (h : Host) : Nat → Reentry
  | 0 => ⟨fun _ => stop .recursionLimit, fun _ => stop .recursionLimit⟩
  | n + 1 =>
    let deeper := level h n
    ⟨expr h deeper, statements h deeper⟩

end Evaluate

namespace Script

/-- The machine at the start of a run. -/
def machine (s : Script) (b : Bindings) (buffers : Buffers) : Machine :=
  let (b, next) := b.identify s.identities
  { buffers, frames := [{ ground := .bindings b }], identity := next, blocks := s.blocks }

def run (h : Host) (s : Script) : Run Unit := (Evaluate.level h (Run.depthLimit + 2)).body s.body

/-- Run a program text: it is read first, so nothing runs of a program that
cannot be read. The answer is the text that it shows. -/
def evaluate (h : Host) (program : Text) (b : Bindings) (buffers : Buffers) :
    Except Fault Text × Buffers :=
  match parse program with
  | .error f => (.error f, buffers)
  | .ok s =>
    match run h s (s.machine b buffers) with
    | (.ok (), m) => (.ok m.written.reverse.flatten, m.buffers)
    | (.error f, m) => (.error f, m.buffers)

end Script

end ScriptedTemplate
