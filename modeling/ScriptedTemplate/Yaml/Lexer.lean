import ScriptedTemplate.Yaml.Tag
import ScriptedTemplate.Yaml.Scalar.Plain
import ScriptedTemplate.Yaml.Scalar.Quoted
import ScriptedTemplate.Yaml.Scalar.Block

/-
  From a YAML text to its tokens

  Whether a scalar is a key shows only at the colon after it, so its place among
  the tokens is remembered until a colon comes, the line ends, or 1024
  characters have passed. Until then no token from that place on counts. A text
  with a fault still has the tokens that count when the fault is met.

  At the indentation of a block mapping only a key can stand, and there a colon
  has to come.
-/

namespace ScriptedTemplate

namespace Yaml

/-- A place where a key may begin: its number among the tokens, and whether it
has to be one. -/
structure Candidate where
  number : Nat
  mark : Mark
  required : Bool
  deriving DecidableEq, Repr

/-- Where lexing stands: what is left; the tokens so far; the column of the
innermost block collection, -1 outside all, and those of the ones around it; the
possible key of the innermost flow collection, and those of what is around it;
and whether a key may begin here. -/
structure Lexing where
  cursor : Cursor
  tokens : Array Token
  indent : Int
  indents : List Int
  candidate : Option Candidate
  outer : List (Option Candidate)
  keyAllowed : Bool

namespace Lexing

def start (t : Text) : Lexing := ⟨⟨t, .start⟩, #[], -1, [], none, [], true⟩

def inFlow (s : Lexing) : Bool := !s.outer.isEmpty

def mark (s : Lexing) : Mark := s.cursor.mark

/-- Every possible key, the innermost first. -/
def candidates (s : Lexing) : List Candidate := (s.candidate :: s.outer).filterMap id

/-- The tokens that count. -/
def settled (s : Lexing) : List Token :=
  let known := s.candidates.foldl (fun n k => min n k.number) s.tokens.size
  s.tokens.toList.take known

def push (l : Lexeme) (start stop : Mark) (s : Lexing) : Lexing :=
  { s with tokens := s.tokens.push ⟨l, start, stop⟩ }

def insert (number : Nat) (l : Lexeme) (m : Mark) (s : Lexing) : Lexing :=
  { s with tokens := s.tokens.insertIdxIfInBounds number ⟨l, m, m⟩ }

/-- Add a token that ends at a cursor, and go there. -/
def advance (l : Lexeme) (c : Cursor) (s : Lexing) : Lexing :=
  { s.push l s.mark c.mark with cursor := c }

def take (n : Nat) (l : Lexeme) (s : Lexing) : Lexing := s.advance l (s.cursor.skip n)

/-- The failure of a place where a key had to begin. -/
def missingKey {α : Type} (s : Lexing) (k : Candidate) : Except Fault α :=
  failed .noColon s.mark .simpleKey k.mark

/-- Whether a place can no longer be that of a key. -/
def isStale (s : Lexing) (k : Candidate) : Bool :=
  k.mark.line < s.mark.line || k.mark.index + 1024 < s.mark.index

/-- Forget the places that can no longer be those of keys, the outermost first. -/
def expire (s : Lexing) : Except Fault Lexing :=
  let keys := (s.outer.reverse ++ [s.candidate]).filterMap id
  match keys.find? fun k => k.required && s.isStale k with
  | some k => s.missingKey k
  | none =>
    let fresh := Option.filter fun k => !s.isStale k
    .ok { s with candidate := fresh s.candidate, outer := s.outer.map fresh }

/-- Forget the possible key of the innermost flow collection. -/
def dropCandidate (s : Lexing) : Except Fault Lexing :=
  match s.candidate with
  | some k => if k.required then s.missingKey k else .ok { s with candidate := none }
  | none => .ok s

/-- Remember that a key may begin here, where it may. -/
def markCandidate (s : Lexing) : Except Fault Lexing :=
  if s.keyAllowed then
    let required := !s.inFlow && s.indent == s.mark.column
    s.dropCandidate.map fun s => { s with candidate := some ⟨s.tokens.size, s.mark, required⟩ }
  else .ok s

/-- Open a block collection at a column, unless one is open there; the token
takes the given number, or comes last. -/
def openBlock (column : Nat) (number : Option Nat) (l : Lexeme) (m : Mark) (s : Lexing) : Lexing :=
  if s.inFlow || column ≤ s.indent then s
  else
    let s := { s with indents := s.indent :: s.indents, indent := column }
    match number with
    | some n => s.insert n l m
    | none => s.push l m m

/-- Close the block collections right of a column; `open_` are the columns
around the innermost one. -/
def closeBlocksFrom (column : Int) (s : Lexing) : List Int → Lexing
  | [] => s
  | i :: is =>
    if column < s.indent then
      closeBlocksFrom column { s.push .blockEnd s.mark s.mark with indent := i, indents := is } is
    else s

/-- Close the block collections right of a column. -/
def closeBlocks (column : Int) (s : Lexing) : Lexing :=
  if s.inFlow then s else s.closeBlocksFrom column s.indents

/-- Go to the next token: past blanks, comments and breaks. A tab counts as a
blank unless a key may begin there. In a block collection a key may begin in
every line. -/
def seek (inFlow inComment keyAllowed : Bool) (m : Mark) : Text → Bool × Cursor
  | [] => (keyAllowed, ⟨[], m⟩)
  | '\r' :: '\n' :: rest => seek inFlow false (keyAllowed || !inFlow) (m.nextLine 2) rest
  | c :: rest =>
    if isBreak c then seek inFlow false (keyAllowed || !inFlow) (m.nextLine 1) rest
    else if inComment then seek inFlow true keyAllowed m.next rest
    else if m.column = 0 && isByteOrderMark c then seek inFlow false keyAllowed m.next rest
    else if c == ' ' || (c == '\t' && (inFlow || !keyAllowed)) then
      seek inFlow false keyAllowed m.next rest
    else if c == '#' then seek inFlow true keyAllowed m.next rest
    else (keyAllowed, ⟨c :: rest, m⟩)

def toToken (s : Lexing) : Lexing :=
  let (allowed, c) := seek s.inFlow false s.keyAllowed s.mark s.cursor.rest
  { s with keyAllowed := allowed, cursor := c }

/-- Close everything that a directive or a document's bounds close. -/
def endBlocks (s : Lexing) : Except Fault Lexing :=
  (s.closeBlocks (-1)).dropCandidate.map fun s => { s with keyAllowed := false }

/-- The end of the text, which is the beginning of a line. -/
def streamEnd (s : Lexing) : Except Fault Lexing :=
  let m := s.mark
  let c : Cursor := if m.column = 0 then s.cursor else ⟨s.cursor.rest, ⟨m.index, m.line + 1, 0⟩⟩
  { s with cursor := c }.endBlocks.map (Lexing.take 0 .streamEnd)

def openFlow (l : Lexeme) (s : Lexing) : Except Fault Lexing :=
  s.markCandidate.map fun s =>
    { s with outer := s.candidate :: s.outer, candidate := none, keyAllowed := true }.take 1 l

def closeFlow (l : Lexeme) (s : Lexing) : Except Fault Lexing :=
  s.dropCandidate.map fun s =>
    let s := { s with keyAllowed := false }
    match s.outer with
    | [] => s.take 1 l
    | k :: ks => { s with candidate := k, outer := ks }.take 1 l

def comma (s : Lexing) : Except Fault Lexing :=
  s.dropCandidate.map fun s => { s with keyAllowed := true }.take 1 .comma

def dash (s : Lexing) : Except Fault Lexing :=
  if !s.inFlow && !s.keyAllowed then .error ⟨.entryNotAllowed, s.mark, none⟩
  else
    (s.openBlock s.mark.column none .blockSequence s.mark).dropCandidate.map fun s =>
      { s with keyAllowed := true }.take 1 .dash

def key (s : Lexing) : Except Fault Lexing :=
  if !s.inFlow && !s.keyAllowed then .error ⟨.keyNotAllowed, s.mark, none⟩
  else
    (s.openBlock s.mark.column none .blockMapping s.mark).dropCandidate.map fun s =>
      { s with keyAllowed := !s.inFlow }.take 1 .key

/-- A colon before a value; what stands at the possible key is one. -/
def value (s : Lexing) : Except Fault Lexing :=
  match s.candidate with
  | some k =>
    let s := s.insert k.number .key k.mark
    let s := s.openBlock k.mark.column (some k.number) .blockMapping k.mark
    .ok ({ s with candidate := none, keyAllowed := false }.take 1 .value)
  | none =>
    if !s.inFlow && !s.keyAllowed then .error ⟨.valueNotAllowed, s.mark, none⟩
    else
      let s := s.openBlock s.mark.column none .blockMapping s.mark
      .ok ({ s with keyAllowed := !s.inFlow }.take 1 .value)

/-- A token with which a key can begin, and after which none can. -/
def content (read : Lexing → Except Fault (Lexeme × Cursor)) (s : Lexing) : Except Fault Lexing :=
  match s.markCandidate with
  | .error f => .error f
  | .ok s => (read s).map fun (l, c) => { s with keyAllowed := false }.advance l c

def anchor (s : Lexing) : Except Fault (Lexeme × Cursor) :=
  (anchorName .anchor s.cursor).map fun (t, c) => (.anchor t, c)

def reference (s : Lexing) : Except Fault (Lexeme × Cursor) :=
  (anchorName .reference s.cursor).map fun (t, c) => (.reference t, c)

def quoted (quote : Char) (style : Style) (s : Lexing) : Except Fault (Lexeme × Cursor) :=
  (Quoted.read quote s.cursor).map fun (t, c) => (.scalar t style, c)

def blockScalar (style : Style) (s : Lexing) : Except Fault Lexing :=
  match s.dropCandidate with
  | .error f => .error f
  | .ok s =>
    let outer := if s.indent < 0 then none else some s.indent.toNat
    (Block.read (style == .folded) outer s.cursor).map fun (t, c) =>
      { s with keyAllowed := true }.advance (.scalar t style) c

/-- A plain scalar; a key may begin after one behind which a line has ended. -/
def plain (s : Lexing) : Except Fault Lexing :=
  match s.markCandidate with
  | .error f => .error f
  | .ok s =>
    (Plain.read s.inFlow (s.indent + 1).toNat s.cursor).map fun (t, broken, c) =>
      { s with keyAllowed := broken }.advance (.scalar t .plain) c

/-- Whether a plain scalar can begin with a character, given the one after it. -/
def beginsPlain (inFlow : Bool) (c : Char) (next : Option Char) : Bool :=
  if c == '-' then !(next.any isBlank)
  else if c == '?' || c == ':' then !inFlow && !isSeparator next
  else !isSeparator (some c) && !(",[]\x7b\x7d#&*!|>'\"%@\x60".toList.contains c)

def token (s : Lexing) : Except Fault Lexing :=
  let next := s.cursor.peekAt 1
  match s.cursor.rest with
  | [] => s.streamEnd
  | c :: _ =>
    if s.mark.column = 0 && c == '%' then
      match s.endBlocks with
      | .error f => .error f
      | .ok s => (directive s.cursor).map fun (l, c) => s.advance l c
    else if s.cursor.atRule '-' then s.endBlocks.map (Lexing.take 3 .documentStart)
    else if s.cursor.atRule '.' then s.endBlocks.map (Lexing.take 3 .documentEnd)
    else if c == '[' then s.openFlow .sequenceBegin
    else if c == '{' then s.openFlow .mappingBegin
    else if c == ']' then s.closeFlow .sequenceEnd
    else if c == '}' then s.closeFlow .mappingEnd
    else if c == ',' then s.comma
    else if c == '-' && isSeparator next then s.dash
    else if c == '?' && (s.inFlow || isSeparator next) then s.key
    else if c == ':' && (s.inFlow || isSeparator next) then s.value
    else if c == '*' then s.content reference
    else if c == '&' then s.content anchor
    else if c == '!' then s.content fun s => tag s.inFlow s.cursor
    else if c == '|' && !s.inFlow then s.blockScalar .literal
    else if c == '>' && !s.inFlow then s.blockScalar .folded
    else if c == '\'' then s.content (quoted '\'' .singleQuoted)
    else if c == '"' then s.content (quoted '"' .doubleQuoted)
    else if beginsPlain s.inFlow c next then s.plain
    else failed .noToken s.mark .nextToken s.mark

/-- Go to the next token and take it. -/
def step (s : Lexing) : Except Fault Lexing :=
  match s.toToken.expire with
  | .error f => .error f
  | .ok s =>
    match (s.closeBlocks s.mark.column).token with
    | .error f => .error f
    | .ok s => s.expire

/-- Whether the end of the text has been taken. -/
def isDone (s : Lexing) : Bool := s.tokens.back?.any fun t => t.lexeme == .streamEnd

/-- The tokens that count, and the fault that ends them. Every step but the last
uses up a character, so one more step than there are characters is enough. -/
def runFrom : Nat → Lexing → List Token × Option Fault
  | 0, s => (s.settled, none)
  | fuel + 1, s =>
    match s.step with
    | .error f => (s.settled, some f)
    | .ok s => if s.isDone then (s.settled, none) else runFrom fuel s

end Lexing

/-- The first character that no text may contain, as a fault; `offset` is the
number of bytes before the text. -/
def forbiddenFrom (offset : Nat) : Text → Option Fault
  | [] => none
  | c :: t =>
    if isAllowed c then forbiddenFrom (offset + c.utf8Size) t
    else some ⟨.controlCharacter offset, .start, none⟩

/-- The tokens of a text that count, and the fault that ends them. -/
def tokens (t : Text) : List Token × Option Fault :=
  match forbiddenFrom 0 t with
  | some f => ([], some f)
  | none => Lexing.runFrom (t.length + 2) (.start t)

end Yaml

end ScriptedTemplate
