import ScriptedTemplate.Script.Phrase
import ScriptedTemplate.Script.Scope

/-
  Grammar — programs as statements

  A program is literal text, expressions to be shown, and statements. Some
  statements have a body, which ends at the statement that closes them; where a
  program ends before that, the fault is that the end of a block is missing.
  Every statement counts towards the same limit on nesting as expressions do.
-/

namespace ScriptedTemplate

/-- A program: what it does, its named blocks, and the identities of its
constants, which are the numbers below `identities`. -/
structure Script where
  body : List Statement
  blocks : List Block
  identities : Nat

namespace Grammar

open Reader

def reserved : List String := ["true", "True", "false", "False", "none", "None", "loop", "self"]

def freeName : Reader String := do
  let s ← anyName
  if reserved.contains s then fail (.reserved s) else return s

/-- The members after a name that is assigned to. -/
def members : Nat → Target → Expr → Reader Target
  | 0, t, _ => return t
  | fuel + 1, t, e => do
    if ← accept (Token.isMark .dot) then
      let s ← anyName
      let line ← lastLine
      members fuel (.member e s) (.mkMember e s line)
    else return t

/-- A name to be assigned to, with its members if those may be. -/
def place (withMembers : Bool) : Reader Target := do
  let s ← freeName
  let line ← lastLine
  if withMembers then members (← size) (.name s line) (.name s line) else return .name s line

/-- Whether a list of targets ends before a token. -/
def endsTargets : Check
  | .mark .parenClose => true
  | .showEnd => true
  | .blockEnd => true
  | .name "in" => true
  | _ => false

/-- Targets with commas between them, and whether there was a comma. -/
def targets (nested place : Reader Target) : Nat → Bool → Reader (List Target × Bool)
  | 0, _ => return ([], false)
  | fuel + 1, isFirst => do
    if !isFirst then mark .comma
    if ← upcoming endsTargets then return ([], false)
    let t ←
      if ← accept (Token.isMark .parenOpen) then do
        let t ← nested
        mark .parenClose
        pure t
      else place
    if ← upcoming (Token.isMark .comma) then
      let (rest, _) ← targets nested place fuel false
      return (t :: rest, true)
    else return ([t], false)

/-- A target: one place, or the parts of a sequence. -/
def targetAt (withMembers : Bool) : Nat → Stream → Except Fault (Target × Stream)
  | 0, s => fail .tooDeep s
  | fuel + 1, s => (show Reader Target from do
      let here ← line
      match ← targets (fun s => targetAt withMembers fuel s) (place withMembers) fuel true with
      | ([t], false) => return t
      | (ts, _) => return .parts ts here) s

/-- A target, of places with members or only of names. -/
def target (withMembers : Bool) : Reader Target := do targetAt withMembers ((← size) + 1)

/-- Whether a token is one of these names. -/
def isOneOf (names : List String) : Check
  | .name s => names.contains s
  | _ => false

/-- What a statement is read with: expressions, expressions without choice,
optional arguments, and bodies up to a closing statement. -/
structure Parts where
  expr : Reader Expr
  noChoice : Reader Expr
  arguments? : Reader (List Argument)
  body : Check → Reader (List Statement)

namespace Parts

/-- A body up to the statement of this name, which is taken. -/
def bodyTo (p : Parts) (closing : String) : Reader (List Statement) := do
  let b ← p.body (isOneOf [closing])
  let _ ← next
  return b

def loop (p : Parts) (line : Nat) : Reader Statement := do
  let t ← target false
  word "in" "in"
  let items ← p.noChoice
  let keep ← if ← accept (Token.isName "if") then some <$> p.expr else pure none
  let recursive ← accept (Token.isName "recursive")
  blockEnd
  let body ← p.body (isOneOf ["endfor", "else"])
  let otherwise ←
    if ← accept (Token.isName "else") then do
      blockEnd
      p.body (isOneOf ["endfor"])
    else pure []
  let _ ← next
  return .loop t items keep recursive body otherwise line

def branch (p : Parts) : Nat → Nat → Reader Statement
  | 0, _ => fail .tooDeep
  | fuel + 1, line => do
    let test ← p.expr
    blockEnd
    let yes ← p.body (isOneOf ["endif", "else", "elif"])
    match ← next with
    | some (.name "else") =>
      blockEnd
      let no ← p.bodyTo "endif"
      return .branch test yes no line
    | some (.name "elif") =>
      let more ← branch p fuel (← lastLine)
      return .branch test yes [more] line
    | _ => return .branch test yes [] line

def bindings (p : Parts) : Nat → Bool → Reader (List (Target × Expr))
  | 0, _ => return []
  | fuel + 1, isFirst => do
    if ← upcoming isBlockEnd then return []
    if !isFirst then expect "comma" fun t => if t.isMark .comma then some () else none
    let t ←
      if ← accept (Token.isMark .parenOpen) then do
        let t ← target false
        mark .parenClose
        pure t
      else place false
    expect "assignment operator" fun t => if t.isMark .assign then some () else none
    let e ← p.expr
    let rest ← bindings p fuel false
    return (t, e) :: rest

def scope (p : Parts) (line : Nat) : Reader Statement := do
  let bs ← p.bindings (← size) true
  blockEnd
  let body ← p.bodyTo "endwith"
  return .scope bs body line

/-- Filters with bars between them; `before` is the line that the filter before
has come to. -/
def sieves (p : Parts) : Nat → Option Nat → Reader (List Sieve)
  | 0, _ => return []
  | fuel + 1, before => do
    if ← upcoming isBlockEnd then return []
    if before.isSome then mark .pipe
    let s ← anyName
    let start := before.getD (← lastLine)
    let args ← p.arguments?
    let line := lineAfterArguments false start args
    let rest ← sieves p fuel (some line)
    return ⟨s, args, line⟩ :: rest

def someSieves (p : Parts) : Reader (List Sieve) := do
  match ← p.sieves (← size) none with
  | [] => fail .noFilter
  | ss => return ss

/-- Expressions after a first one, with commas before them, up to the end of the
block. -/
def moreExprs (p : Parts) : Nat → Reader (List Expr)
  | 0 => return []
  | fuel + 1 => do
    if ← upcoming isBlockEnd then return []
    mark .comma
    if ← upcoming isBlockEnd then return []
    let e ← p.expr
    let rest ← moreExprs p fuel
    return e :: rest

/-- An expression, or a sequence without brackets. -/
def exprOrSequence (p : Parts) : Reader Expr := do
  let line ← line
  let e ← p.expr
  if ← upcoming (Token.isMark .comma) then
    let rest ← p.moreExprs (← size)
    settle (.list (e :: rest) line) line
  else return e

/-- An assignment of a value or of a body. -/
def assignment (p : Parts) (line : Nat) : Reader Statement := do
  let t ← target true
  if ← upcoming fun t => isBlockEnd t || t.isMark .pipe then
    let ss ← if ← accept (Token.isMark .pipe) then p.someSieves else pure []
    blockEnd
    let body ← p.bodyTo "endset"
    return .capture t ss body line
  else
    expect "assignment operator" fun t => if t.isMark .assign then some () else none
    let e ← p.exprOrSequence
    return .assign t e line

/-- A body with its own way of escaping. -/
def escaping (p : Parts) (line : Nat) : Reader Statement := do
  let e ← p.expr
  blockEnd
  let body ← p.bodyTo "endautoescape"
  return .escaping e body line

def sieved (p : Parts) (line : Nat) : Reader Statement := do
  let ss ← p.someSieves
  blockEnd
  let body ← p.bodyTo "endfilter"
  return .sieved ss body line

def isBlankText : Statement → Bool
  | .text t _ => t.all isBlank
  | _ => false

/-- A named block; its name may be repeated at the end. -/
def block (p : Parts) (line : Nat) : Reader Statement := do
  if ← isInRoutine then fail .blockInRoutine
  let s ← anyName
  enterBlock s
  let _ ← accept (Token.isName "scoped")
  let required ← accept (Token.isName "required")
  blockEnd
  let body ← p.bodyTo "endblock"
  if required && !body.all isBlankText then fail .requiredContent
  match ← peek with
  | some (.name t) =>
    if t != s then fail (.blockName t s)
    let _ ← next
    return .block s required body line
  | _ => return .block s required body line

/-- The words about the context of another program, if they stand here; they
change nothing. -/
def context : Reader Bool := do
  if ← accept (isOneOf ["without", "with"]) then
    word "context" "missing keyword"
    return true
  else return false

def inclusion (p : Parts) (line : Nat) : Reader Statement := do
  let e ← p.expr
  let _ ← context
  let optional ←
    if ← accept (Token.isName "ignore") then do
      word "missing" "missing keyword"
      let _ ← context
      pure true
    else pure false
  return .inclusion e optional line

def imported (p : Parts) (line : Nat) : Reader Statement := do
  let e ← p.expr
  word "as" "as"
  let _ ← freeName
  let _ ← context
  return .imported e line

def importedNames : Nat → Bool → Reader Unit
  | 0, _ => return ()
  | fuel + 1, isFirst => do
    if ← upcoming isBlockEnd then return ()
    if !isFirst then
      mark .comma
      if ← upcoming isBlockEnd then return ()
    if ← context then return ()
    let _ ← freeName
    if ← accept (Token.isName "as") then
      let _ ← freeName
    if ← context then return ()
    importedNames fuel false

def importedFrom (p : Parts) (line : Nat) : Reader Statement := do
  let e ← p.expr
  word "import" "import"
  importedNames (← size) true
  return .imported e line

/-- The parameters of a routine after the opening bracket, and the defaults of
the last of them. -/
def parameters (p : Parts) : Nat → Bool → Bool → Reader (List String × List Expr)
  | 0, _, _ => return ([], [])
  | fuel + 1, isFirst, defaulted => do
    if ← accept (Token.isMark .parenClose) then return ([], [])
    if !isFirst then
      mark .comma
      if ← accept (Token.isMark .parenClose) then return ([], [])
    let s ← freeName
    let default? ←
      if ← accept (Token.isMark .assign) then some <$> p.expr
      else do
        if defaulted then mark .assign
        pure none
    let (names, defaults) ← parameters p fuel false (defaulted || default?.isSome)
    return (s :: names, default?.toList ++ defaults)

/-- The body of a routine, up to the statement that closes it. -/
def routineBody (p : Parts) (closing : String) : Reader (List Statement) := do
  blockEnd
  let body ← within true (p.body (isOneOf [closing]))
  let _ ← next
  return body

def define (p : Parts) (line : Nat) : Reader Statement := do
  let s ← anyName
  mark .parenOpen
  let (names, defaults) ← p.parameters (← size) true false
  let body ← p.routineBody "endmacro"
  return .define (.mk s names defaults body line)

/-- The callee and the arguments of an expression that must be a call. -/
def asCall : Expr → Reader (Expr × List Argument × Nat)
  | .call f args line => return (f, args, line)
  | e => fail (.notCall e.describe)

/-- A call with a body of its own. -/
def callWith (p : Parts) (line : Nat) : Reader Statement := do
  let (names, defaults) ←
    if ← accept (Token.isMark .parenOpen) then p.parameters (← size) true false
    else pure ([], [])
  let (f, args, _) ← asCall (← p.expr)
  let body ← p.routineBody "endcall"
  let r : Definition := .mk "caller" names defaults body line
  return .callWith f args r r.lineAfter

def perform (p : Parts) : Reader Statement := do
  let (f, args, line) ← asCall (← p.expr)
  return .perform f args line

/-- A statement, from its keyword to the end of its block. -/
def statement (p : Parts) : Reader Statement := do
  match ← next with
  | none => fail (.expected "end of input" "block keyword")
  | some (.name s) =>
    let line ← lastLine
    match s with
    | "for" => p.loop line
    | "if" => p.branch (← size) line
    | "with" => p.scope line
    | "set" => p.assignment line
    | "autoescape" => p.escaping line
    | "filter" => p.sieved line
    | "block" => p.block line
    | "extends" => do
      let e ← p.expr
      return .parent e line
    | "include" => p.inclusion line
    | "import" => p.imported line
    | "from" => p.importedFrom line
    | "macro" => p.define line
    | "call" => p.callWith line
    | "do" => p.perform
    | _ => fail (.unknownStatement s)
  | some t => fail (.notStatement t.describe)

end Parts

/-- Text, expressions and statements up to a statement that closes them, or to
the end of the program. -/
def passage (expr : Reader Expr) (statement : Reader Statement) (closes : Check) :
    Nat → Reader (List Statement)
  | 0 => return []
  | fuel + 1 => do
    match ← next with
    | some (.text t) =>
      let line ← lastLine
      let rest ← passage expr statement closes fuel
      return .text t line :: rest
    | some .showStart =>
      let line ← lastLine
      let e ← expr
      expect "end of variable block" fun t => if isShowEnd t then some () else none
      let rest ← passage expr statement closes fuel
      return .shown e line :: rest
    | some .blockStart =>
      match ← peek with
      | none => fail (.expected "end of input" "keyword")
      | some t =>
        if closes t then return []
        let s ← statement
        blockEnd
        let rest ← passage expr statement closes fuel
        return s :: rest
    | _ => return []

/-- A body; `allowance` limits the nesting. -/
def bodyAt : Nat → Check → Stream → Except Fault (List Statement × Stream)
  | allowance, closes, s =>
    let statement : Reader Statement :=
      match allowance with
      | 0 => fail .tooDeep
      | n + 1 =>
        Parts.statement
          { expr := Phrase.expression n
            noChoice := Phrase.noChoice n
            arguments? := Phrase.filterArguments n
            body := fun closes s => bodyAt n closes s }
    passage (Phrase.expression allowance) statement closes (s.total + 1) s

/-- How deep statements and expressions may be nested. -/
def nestingLimit : Nat := 150

mutual

def blocksOf : Statement → List Block
  | .loop _ _ _ _ body otherwise _ => blocksIn body ++ blocksIn otherwise
  | .branch _ yes no _ => blocksIn yes ++ blocksIn no
  | .scope _ body _ => blocksIn body
  | .capture _ _ body _ => blocksIn body
  | .escaping _ body _ => blocksIn body
  | .sieved _ body _ => blocksIn body
  | .block s required body _ => ⟨s, required, body⟩ :: blocksIn body
  | _ => []
termination_by structural s => s

def blocksIn : List Statement → List Block
  | [] => []
  | s :: rest => blocksOf s ++ blocksIn rest
termination_by structural ss => ss

end

end Grammar

def Script.parse (program : Text) : Except Fault Script :=
  match Grammar.bodyAt Grammar.nestingLimit (fun _ => false)
      (Reader.ofTokens (Lexer.tokens program)) with
  | .ok (body, s) => .ok ⟨body, Grammar.blocksIn body, s.identity⟩
  | .error f => .error f

end ScriptedTemplate
