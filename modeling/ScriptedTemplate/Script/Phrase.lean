import ScriptedTemplate.Script.Reader
import ScriptedTemplate.Script.Tree

/-
  Phrases — the grammar of expressions

  From weakest to strongest: choice, or, and, not, comparison and membership,
  sum, joining, product, power, sign. Operators of one strength group to the
  left, the power too; comparisons in a row hold if each of them does. What
  follows a value — a member, an item, a slice, a call — binds before a filter
  or a test, and a sign binds before all of them.

  Values and what stands in brackets count towards a limit on nesting.
-/

namespace ScriptedTemplate

namespace Phrase

open Reader

/-- Read with the allowance one smaller; without allowance there is nothing to
read. -/
def guarded {α : Type} : Nat → (Nat → Reader α) → Reader α
  | 0, _ => fail .tooDeep
  | n + 1, r => r n

/-- Read operators of one strength, each with the operand after it. -/
def chain (operator? : Token → Option Operator) (operand : Reader Expr) (line : Nat) :
    Nat → Expr → Reader Expr
  | 0, left => return left
  | fuel + 1, left => do
    match ← peek with
    | none => return left
    | some t =>
      match operator? t with
      | none => return left
      | some op =>
        let _ ← next
        let right ← operand
        chain operator? operand line fuel (← settle (.mkBinary op left right line) line)

/-- Operands with operators of one strength between them. -/
def joined (operator? : Token → Option Operator) (operand : Reader Expr) : Reader Expr := do
  let line ← line
  let fuel ← size
  let left ← operand
  chain operator? operand line fuel left

/-- The operator that a symbol is among powers. -/
def power? : Token → Option Operator
  | .mark .power => some .power
  | _ => none

/-- The operator that a symbol is among products. -/
def product? : Token → Option Operator
  | .mark .times => some .times
  | .mark .divide => some .divide
  | .mark .floorDivide => some .floorDivide
  | .mark .modulo => some .modulo
  | _ => none

/-- The operator that a symbol is among sums. -/
def sum? : Token → Option Operator
  | .mark .plus => some .plus
  | .mark .minus => some .minus
  | _ => none

def join? : Token → Option Operator
  | .mark .tilde => some .join
  | _ => none

/-- The operator that a token is among comparisons. -/
def comparison? : Token → Option Operator
  | .mark .equal => some .equal
  | .mark .unequal => some .unequal
  | .mark .less => some .less
  | .mark .lessEqual => some .lessEqual
  | .mark .greater => some .greater
  | .mark .greaterEqual => some .greaterEqual
  | .name "in" => some .within
  | _ => none

def and? : Token → Option Operator
  | .name "and" => some .and
  | _ => none

def or? : Token → Option Operator
  | .name "or" => some .or
  | _ => none

/-- Read comparisons, each with the operand after it; `links` are those before
them. -/
def comparisons (operand : Reader Expr) (line : Nat) (first : Expr) :
    Nat → List Comparison → Reader (List Comparison)
  | 0, links => return links
  | fuel + 1, links => do
    match ← peek with
    | none => return links
    | some t =>
      match comparison? t with
      | some op =>
        let _ ← next
        let right ← operand
        comparisons operand line first fuel (links ++ [.after first links line op false right])
      | none =>
        if t.isName "not" then
          let _ ← next
          word "in" "in"
          let right ← operand
          let link := Comparison.after first links line .within true right
          comparisons operand line first fuel (links ++ [link])
        else return links

def compared (operand : Reader Expr) : Reader Expr := do
  let line ← lastLine
  let fuel ← size
  let first ← operand
  match ← comparisons operand line first fuel [] with
  | [] => return first
  | links => settle (.compared first links) line

/-- Read an operand after any number of prefix tokens. -/
def signed (isSign : Token → Bool) (apply : Expr → Nat → Expr) (operand : Reader Expr) :
    Nat → Reader Expr
  | 0 => operand
  | fuel + 1 => do
    let line ← line
    if ← accept isSign then
      let e ← signed isSign apply operand fuel
      settle (apply e line) line
    else operand

/-- A value after any number of minus signs. -/
def minus (primary : Reader Expr) : Reader Expr := do
  signed (Token.isMark .minus) .opposite primary (← size)

/-- The tokens between an opening and a closing symbol, commas between the
items; `isFirst` says that none has been read yet. -/
def items {α : Type} (close : Mark) (item : Reader α) : Nat → Bool → Reader (List α)
  | 0, _ => return []
  | fuel + 1, isFirst => do
    if ← accept (Token.isMark close) then return []
    if !isFirst then
      mark .comma
      if ← accept (Token.isMark close) then return []
    let first ← item
    let rest ← items close item fuel false
    return first :: rest

/-- The most arguments that a call can have. -/
def argumentLimit : Nat := 2000

/-- The arguments of a call after its opening bracket. -/
def argumentsFrom (inner : Reader Expr) : Nat → Nat → Bool → Reader (List Argument)
  | 0, _, _ => return []
  | fuel + 1, count, named => do
    if ← accept (Token.isMark .parenClose) then return []
    if count != 0 || named then
      mark .comma
      if ← accept (Token.isMark .parenClose) then return []
    let spreadNamed ← accept (Token.isMark .power)
    let spread ← if spreadNamed then pure false else accept (Token.isMark .times)
    let e ← inner
    let (argument, named) ←
      if spreadNamed then pure (Argument.spreadNamed e, true)
      else if spread then pure (Argument.spread e, named)
      else
        match e with
        | .name s _ =>
          if ← accept (Token.isMark .assign) then
            let v ← inner
            pure (Argument.named s v, true)
          else if named then fail .lateArgument
          else pure (Argument.plain e, named)
        | _ => if named then fail .lateArgument else pure (Argument.plain e, named)
    if argumentLimit < count + 1 then fail .tooManyArguments
    let rest ← argumentsFrom inner fuel (count + 1) named
    return argument :: rest

def arguments (inner : Reader Expr) : Reader (List Argument) := do
  mark .parenOpen
  argumentsFrom inner (← size) 0 false

/-- The arguments of a call, if there is an opening bracket. -/
def arguments? (inner : Reader Expr) : Reader (List Argument) := do
  if ← upcoming (Token.isMark .parenOpen) then arguments inner else return []

/-- What stands between square brackets after a value, the opening one taken. -/
def subscript (inner : Reader Expr) (e : Expr) (line : Nat) : Reader Expr := do
  let isEdge (t : Token) : Bool := t.isMark .bracketClose || t.isMark .colon
  let start? ← if ← upcoming (Token.isMark .colon) then pure none else some <$> inner
  if ← accept (Token.isMark .colon) then
    let stop ← if ← upcoming isEdge then pure (Expr.implied .none) else inner
    let step ←
      if ← accept (Token.isMark .colon) then
        if ← upcoming (Token.isMark .bracketClose) then pure (Expr.implied .none) else inner
      else pure (Expr.implied .none)
    mark .bracketClose
    return .mkSlice e (start?.getD (.implied .none)) stop step line
  else
    mark .bracketClose
    match start? with
    | some key => return .mkItem e key line
    | none => fail .emptySubscript

/-- What follows a value directly: members, items, slices and calls. Each shows
its failures at the line of what came before it. -/
def suffixes (inner : Reader Expr) : Nat → Nat → Expr → Reader Expr
  | 0, _, e => return e
  | fuel + 1, at_, e => do
    let here ← line
    match ← peek with
    | some (.mark .dot) =>
      let _ ← next
      match ← next with
      | some (.name s) => suffixes inner fuel here (.mkMember e s at_)
      | some (.int n) =>
        suffixes inner fuel here (.mkItem e (.literal (.int n) (← lastLine)) at_)
      | some t => fail (.expected t.describe "identifier or integer")
      | none => fail (.expected "end of input" "identifier or integer")
    | some (.mark .bracketOpen) =>
      let _ ← next
      let e ← subscript inner e at_
      suffixes inner fuel here e
    | some (.mark .parenOpen) =>
      let args ← arguments inner
      suffixes inner fuel here (.mkCall e args at_)
    | _ => return e

/-- A value after its signs, with what follows it directly. -/
def operand (inner primary : Reader Expr) : Reader Expr := do
  let line ← line
  let e ← minus primary
  suffixes inner (← size) line e

/-- Whether a token can begin the argument of a test that has no brackets. -/
def beginsArgument : Token → Bool
  | .name s => s != "and" && s != "or" && s != "else" && s != "is"
  | .string _ => true
  | .int _ => true
  | .float _ => true
  | .mark .plus => true
  | .mark .minus => true
  | .mark .bracketOpen => true
  | .mark .braceOpen => true
  | _ => false

def filters (inner primary : Reader Expr) : Nat → Expr → Reader Expr
  | 0, e => return e
  | fuel + 1, e => do
    match ← peek with
    | some (.mark .pipe) =>
      let _ ← next
      let name ← anyName
      let line ← lastLine
      let args ← arguments? inner
      filters inner primary fuel (.mkFilter e name args line)
    | some (.name "is") =>
      let _ ← next
      let negated ← accept (Token.isName "not")
      let name ← anyName
      let line ← lastLine
      let args ←
        if ← upcoming (Token.isMark .parenOpen) then arguments inner
        else if ← upcoming beginsArgument then
          let e ← operand inner primary
          pure [Argument.plain e]
        else pure []
      let e := Expr.mkTest e name args line
      filters inner primary fuel (if negated then .negation e line else e)
    | _ => return e

/-- A value with everything that belongs to it. -/
def unary (inner primary : Reader Expr) : Reader Expr := do
  let e ← operand inner primary
  filters inner primary (← size) e

def disjunction (inner primary : Reader Expr) : Reader Expr :=
  let powers := joined power? (unary inner primary)
  let sums := joined sum? (joined join? (joined product? powers))
  let negations : Reader Expr := do signed (Token.isName "not") .negation (compared sums) (← size)
  joined or? (joined and? negations)

/-- The choices after an expression; `line` is where its own begins. -/
def choices (alternative : Reader Expr) : Nat → Nat → Expr → Reader Expr
  | 0, _, e => return e
  | fuel + 1, line, e => do
    if ← accept (Token.isName "if") then
      let test ← alternative
      let no ←
        if ← accept (Token.isName "else") then
          let line ← lastLine
          let e ← alternative
          choices alternative fuel line e
        else pure (.implied (.undefined true))
      choices alternative fuel (← lastLine) (.mkChoice test e no line)
    else return e

def choice (alternative : Reader Expr) : Reader Expr := do
  let line ← lastLine
  let fuel ← size
  let e ← alternative
  choices alternative fuel line e

/-- The strings that follow a string directly; they are part of it. After a
string a token that is none ends the program. -/
def moreStrings : Nat → String → Reader String
  | 0, s => return s
  | fuel + 1, s => do
    match ← peekOrEnd with
    | some (.string t) =>
      let _ ← next
      moreStrings fuel (s ++ t)
    | _ => return s

/-- The items of a sequence in round brackets after the first one. -/
def tupleRest (inner : Reader Expr) : Nat → Reader (List Expr)
  | 0 => return []
  | fuel + 1 => do
    if ← accept (Token.isMark .parenClose) then return []
    mark .comma
    if ← accept (Token.isMark .parenClose) then return []
    let e ← inner
    let rest ← tupleRest inner fuel
    return e :: rest

/-- What stands in round brackets, the opening one taken: an expression, or a
sequence when there is a comma or nothing at all. -/
def bracketed (inner : Reader Expr) (line : Nat) : Reader Expr := do
  if ← accept (Token.isMark .parenClose) then settle (.list [] line) line
  else
    let e ← inner
    if ← upcoming (Token.isMark .comma) then
      let rest ← tupleRest inner (← size)
      settle (.list (e :: rest) line) line
    else
      mark .parenClose
      return e

def entry (inner : Reader Expr) : Reader Entry := do
  let k ← inner
  mark .colon
  let v ← inner
  return .mk k v

/-- A value: a literal, a name, or something in brackets. -/
def primary (inner : Reader Expr) : Reader Expr := do
  match ← next with
  | none => fail (.expected "end of input" "expression")
  | some t =>
    let line ← lastLine
    match t with
    | .name "true" => return .literal (.bool true) line
    | .name "True" => return .literal (.bool true) line
    | .name "false" => return .literal (.bool false) line
    | .name "False" => return .literal (.bool false) line
    | .name "none" => return .literal .none line
    | .name "None" => return .literal .none line
    | .name s => return .name s line
    | .string s => return .literal (.string (← moreStrings (← size) s) false) line
    | .int n => return .literal (.int n) line
    | .float x => return .literal (.float x) line
    | .mark .parenOpen => bracketed inner line
    | .mark .bracketOpen => settle (.list (← items .bracketClose inner (← size) true) line) line
    | .mark .braceOpen => settle (.map (← items .braceClose (entry inner) (← size) true) line) line
    | t => fail (.unexpected t.describe)

/-- An expression without choice; `allowance` limits the nesting. Every step
deeper uses up a token, so as many steps as there are tokens are enough. -/
def disjunctionAt : Nat → Nat → Stream → Except Fault (Expr × Stream)
  | 0, _, s => fail .tooDeep s
  | fuel + 1, allowance, s =>
    let inner (n : Nat) : Reader Expr :=
      guarded n fun m => choice fun s => disjunctionAt fuel m s
    disjunction (inner allowance) (guarded allowance fun n => primary (inner n)) s

def noChoice (allowance : Nat) : Reader Expr := do
  disjunctionAt (← size) allowance

def expression (allowance : Nat) : Reader Expr := guarded allowance fun n => choice (noChoice n)

/-- The arguments of a filter, if there are any. -/
def filterArguments (allowance : Nat) : Reader (List Argument) :=
  arguments? (expression allowance)

end Phrase

end ScriptedTemplate
