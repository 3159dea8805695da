import ScriptedTemplate.Script.Tree

/-
  Scopes — the names that a routine takes from outside

  A name is free in a routine when it is read at a place where the routine has
  not bound it. A statement binds its targets before its expression is looked
  at, so an assignment of a name to itself does not make the name free. What is
  bound inside a block of statements is bound to the end of that block.
-/

namespace ScriptedTemplate

/-- The free names found so far, and the names bound at this place. -/
structure Scope where
  free : List String
  bound : List String

namespace Scope

def bind (sc : Scope) (s : String) : Scope := { sc with bound := s :: sc.bound }

def read (sc : Scope) (s : String) : Scope :=
  if sc.bound.contains s || sc.free.contains s then sc else { sc with free := s :: sc.free }

/-- The scope after a block of statements: what the block bound is not bound any
more. -/
def leave (outer inner : Scope) : Scope := ⟨inner.free, outer.bound⟩

mutual

def expr (sc : Scope) : Expr → Scope
  | .literal _ _ => sc
  | .implied _ => sc
  | .known _ _ _ => sc
  | .name s _ => sc.read s
  | .list items _ => exprs sc items
  | .map entries _ => entries_ sc entries
  | .negation e _ => expr sc e
  | .opposite e _ => expr sc e
  | .binary _ l r _ => expr (expr sc l) r
  | .compared first links => links_ (expr sc first) links
  | .choice t y n _ => expr (expr (expr sc t) y) n
  | .member e _ _ => expr sc e
  | .item e k _ => expr (expr sc e) k
  | .slice e a b c _ => expr (expr (expr (expr sc e) a) b) c
  | .call f args _ => arguments (expr sc f) args
  | .filter e _ args _ => arguments (expr sc e) args
  | .test e _ args _ => arguments (expr sc e) args
termination_by structural e => e

def exprs (sc : Scope) : List Expr → Scope
  | [] => sc
  | e :: es => exprs (expr sc e) es
termination_by structural es => es

def links_ (sc : Scope) : List Comparison → Scope
  | [] => sc
  | c :: cs => links_ (link sc c) cs
termination_by structural cs => cs

def link (sc : Scope) : Comparison → Scope
  | .mk _ _ e _ => expr sc e
termination_by structural c => c

def entries_ (sc : Scope) : List Entry → Scope
  | [] => sc
  | e :: es => entries_ (entry sc e) es
termination_by structural es => es

def entry (sc : Scope) : Entry → Scope
  | .mk k v => expr (expr sc k) v
termination_by structural e => e

def arguments (sc : Scope) : List Argument → Scope
  | [] => sc
  | a :: rest => arguments (argument sc a) rest
termination_by structural args => args

def argument (sc : Scope) : Argument → Scope
  | .plain e => expr sc e
  | .spread e => expr sc e
  | .named _ e => expr sc e
  | .spreadNamed e => expr sc e
termination_by structural a => a

end

mutual

/-- The scope after an assignment to a target. -/
def target (sc : Scope) : Target → Scope
  | .name s _ => sc.bind s
  | .parts ts _ => targets sc ts
  | .member _ _ => sc
termination_by structural t => t

def targets (sc : Scope) : List Target → Scope
  | [] => sc
  | t :: ts => targets (target sc t) ts
termination_by structural ts => ts

end

def sieves (sc : Scope) (ss : List Sieve) : Scope :=
  ss.foldl (fun sc s => sc.arguments s.args) sc

def bindings (sc : Scope) (bs : List (Target × Expr)) : Scope :=
  bs.foldl (fun sc b => (sc.target b.1).expr b.2) sc

mutual

def statement (sc : Scope) : Statement → Scope
  | .text _ _ => sc
  | .shown e _ => sc.expr e
  | .loop t items keep _ body otherwise _ =>
    let inner := (sc.expr items).target t
    let inner :=
      match keep with
      | none => inner
      | some e => inner.expr e
    let sc := sc.leave (statements inner body)
    sc.leave (statements sc otherwise)
  | .branch test yes no _ =>
    let sc := sc.expr test
    let sc := sc.leave (statements sc yes)
    sc.leave (statements sc no)
  | .scope bs body _ => sc.leave (statements (sc.bindings bs) body)
  | .assign t e _ => (sc.target t).expr e
  | .capture t ss body _ =>
    let sc := sc.target t
    (sc.leave (statements sc body)).sieves ss
  | .escaping mode body _ =>
    let sc := sc.expr mode
    sc.leave (statements sc body)
  | .sieved ss body _ => (sc.leave (statements sc body)).sieves ss
  | .block _ _ body _ => sc.leave (statements (sc.bind "super") body)
  | .parent _ _ => sc
  | .inclusion _ _ _ => sc
  | .imported _ _ => sc
  | .define r => definition (sc.bind r.routineName) r
  | .callWith f args r _ => definition (((sc.expr f).arguments args).bind "caller") r
  | .perform f args _ => (sc.expr f).arguments args
termination_by structural s => s

def statements (sc : Scope) : List Statement → Scope
  | [] => sc
  | s :: rest => statements (statement sc s) rest
termination_by structural ss => ss

def definition (sc : Scope) : Definition → Scope
  | .mk _ parameters defaults body _ =>
    statements ((parameters.foldl bind sc).exprs defaults) body
termination_by structural r => r

end

end Scope

/-- The names that are free in a routine. -/
def Definition.freeNames (r : Definition) : List String := (Scope.definition ⟨[], []⟩ r).free

end ScriptedTemplate
