import ScriptedTemplate.Script.Literal
import ScriptedTemplate.Text.Blank

/-
  Lexing — from program text to tokens

  Outside of blocks a program is literal text, up to the next block. Of blocks
  there are three sorts: expressions to be shown, statements, and comments,
  which have no tokens. A minus directly inside a block's delimiter takes the
  blanks of the literal text next to it. What stands between the statements
  `raw` and `endraw` is literal text whatever it looks like.

  Inside a block, tokens stand between blanks, and its closing delimiter counts
  only while no bracket is open. What is left open is at fault where the program
  ends.

  Reading goes in steps: `step` reads a token or a few from where the cursor
  stands and says where it stands then, so the tokens of a program are those of
  its pieces wherever a step ends between the pieces.
-/

namespace ScriptedTemplate

/-- A token and the line at which it starts. -/
structure Placed where
  token : Token
  line : Nat

/-- The tokens of a program up to its end, or up to something that is no
token. -/
structure TokenList where
  tokens : List Placed
  fault : Option (GrammarFault × Nat)

namespace Lexer

/-- What the characters at the cursor belong to. -/
inductive Zone where
  | text
  | shown
  | statement
  deriving DecidableEq, Repr

/-- Where reading stands: the zone, whether blanks that follow are to be
dropped, how many brackets are open, and the line. -/
structure Cursor where
  zone : Zone
  dropBlanks : Bool
  depth : Nat
  line : Nat
  deriving DecidableEq, Repr

/-- The cursor at the start of a program. -/
def Cursor.start : Cursor := ⟨.text, false, 0, 1⟩

/-- What one step of reading comes to. -/
inductive Step where
  /-- The text is used up. -/
  | done
  /-- After these tokens comes something that is none. -/
  | fail (tokens : List Placed) (f : GrammarFault) (line : Nat)
  /-- These tokens were read; reading goes on. -/
  | go (tokens : List Placed) (c : Cursor) (rest : Text)

/-- The number of line feeds in a text. -/
def breaks (t : Text) : Nat := t.count '\n'

/-- The sorts of blocks. -/
inductive BlockSort where
  | shown
  | statement
  | comment
  deriving DecidableEq, Repr

/-- The sort of block that a character after an opening brace begins. -/
def BlockSort.of? : Char → Option BlockSort
  | '{' => some .shown
  | '%' => some .statement
  | '#' => some .comment
  | _ => none

/-- The text before the first block, the sort of that block, and what follows
its delimiter. -/
def findBlock : Text → Option (Text × BlockSort × Text)
  | [] => none
  | '{' :: c :: t =>
    match BlockSort.of? c with
    | some s => some ([], s, t)
    | none => (findBlock (c :: t)).map fun found => ('{' :: found.1, found.2)
  | c :: t => (findBlock t).map fun found => (c :: found.1, found.2)

/-- Whether the blanks outside of a delimiter are to be dropped. -/
inductive Trim where
  | keep
  | drop
  deriving DecidableEq, Repr

/-- The sign at the start of a text that tells whether blanks are dropped, and
what follows the sign. -/
def takeTrim : Text → Trim × Text
  | '-' :: t => (.drop, t)
  | '+' :: t => (.keep, t)
  | t => (.keep, t)

/-- Whether a character is blank inside a block. -/
def isSpace (c : Char) : Bool :=
  c == ' ' || c == '\n' || c == '\t' || c == '\r' || c.toNat == 12

/-- What follows a statement of one word, and the sign before its end;
`opening` says that a sign may come first. -/
def bareStatement? (word : Text) (opening : Bool) (t : Text) : Option (Trim × Text) :=
  let t := if opening then (takeTrim t).2 else t
  match Text.stripPrefix? word (t.dropWhile isSpace) with
  | none => none
  | some t =>
    let (trim, t) := takeTrim (t.dropWhile isSpace)
    (Text.stripPrefix? ['%', '}'] t).map fun rest => (trim, rest)

/-- The text before the end of a raw passage, the sign at the start of the
statement that ends it, the sign at that statement's end, and what follows. -/
def closeRaw : Text → Option (Text × Trim × Trim × Text)
  | [] => none
  | c :: t =>
    let found :=
      match c, t with
      | '{', '%' :: t => (bareStatement? "endraw".toList true t).map fun (trim, rest) =>
          ([], (takeTrim t).1, trim, rest)
      | _, _ => none
    match found with
    | some f => some f
    | none => (closeRaw t).map fun (inside, more) => (c :: inside, more)

/-- A text token, unless the text is empty. -/
def textToken (t : Text) (line : Nat) : List Placed := if t = [] then [] else [⟨.text t, line⟩]

def textStep (c : Cursor) (whole : Text) : Step :=
  let t := if c.dropBlanks then whole.trimStart else whole
  let line := c.line + if c.dropBlanks then breaks (whole.takeWhile isBlank) else 0
  match findBlock t with
  | none => .go (textToken t line) ⟨.text, false, c.depth, line + breaks t⟩ []
  | some (before, sort, body) =>
    let (trim, inside) := takeTrim body
    let lead := textToken (if trim = .drop then before.trimEnd else before) line
    let line := line + breaks before
    match sort with
    | .shown => .go (lead ++ [⟨.showStart, line⟩]) ⟨.shown, false, c.depth, line⟩ inside
    | .comment =>
      match Text.splitAt? ['#', '}'] inside with
      | none => .fail lead .openComment (line + breaks inside)
      | some (comment, rest) =>
        .go lead ⟨.text, comment.getLast? = some '-', c.depth, line + breaks comment⟩ rest
    | .statement =>
      match bareStatement? "raw".toList false inside with
      | none => .go (lead ++ [⟨.blockStart, line⟩]) ⟨.statement, false, c.depth, line⟩ inside
      | some (first, rest) =>
        let line := line + breaks inside - breaks rest
        match closeRaw rest with
        | none => .fail lead .openRaw (line + breaks rest)
        | some (raw, last, trim, after) =>
          let kept := if first = .drop then raw.trimStart else raw
          let kept := if last = .drop then kept.trimEnd else kept
          .go (lead ++ [⟨.text kept, line⟩])
            ⟨.text, trim = .drop, c.depth, line + breaks rest - breaks after⟩ after

/-- The closing delimiter of a block at the start of a text: whether blanks after
it are dropped, and what follows it. -/
def closing? (z : Zone) (t : Text) : Option (Bool × Text) :=
  let delimiter : Text := if z = .statement then ['%', '}'] else ['}', '}']
  let signed :=
    match t with
    | '-' :: t => (Text.stripPrefix? delimiter t).map fun rest => (true, rest)
    | '+' :: t => (Text.stripPrefix? delimiter t).map fun rest => (false, rest)
    | _ => none
  match signed with
  | some found => some found
  | none => (Text.stripPrefix? delimiter t).map fun rest => (false, rest)

/-- The symbol of two characters at the start of a text. -/
def longMark? : Text → Option (Mark × Text)
  | '/' :: '/' :: t => some (.floorDivide, t)
  | '*' :: '*' :: t => some (.power, t)
  | '=' :: '=' :: t => some (.equal, t)
  | '!' :: '=' :: t => some (.unequal, t)
  | '>' :: '=' :: t => some (.greaterEqual, t)
  | '<' :: '=' :: t => some (.lessEqual, t)
  | _ => none

def shortMark? : Char → Option Mark
  | '+' => some .plus
  | '-' => some .minus
  | '*' => some .times
  | '/' => some .divide
  | '%' => some .modulo
  | '.' => some .dot
  | ',' => some .comma
  | ':' => some .colon
  | '~' => some .tilde
  | '|' => some .pipe
  | '=' => some .assign
  | '>' => some .greater
  | '<' => some .less
  | '(' => some .parenOpen
  | ')' => some .parenClose
  | '[' => some .bracketOpen
  | ']' => some .bracketClose
  | '{' => some .braceOpen
  | '}' => some .braceClose
  | _ => none

/-- The number of open brackets after a symbol. -/
def depthAfter (depth : Nat) : Mark → Nat
  | .parenOpen | .bracketOpen | .braceOpen => depth + 1
  | .parenClose | .bracketClose | .braceClose => depth - 1
  | _ => depth

/-- Whether a name may go on with a character. -/
def isNamePart (c : Char) : Bool := c.isAlphanum || c == '_'

/-- A step inside a block, at a character that is no blank. -/
def tokenStep (c : Cursor) (first : Char) (t : Text) : Step :=
  let one (token : Token) (depth breaks : Nat) (rest : Text) : Step :=
    .go [⟨token, c.line⟩] { c with depth := depth, line := c.line + breaks } rest
  match if c.depth = 0 then closing? c.zone (first :: t) else none with
  | some (trim, rest) =>
    let token := if c.zone = .statement then Token.blockEnd else Token.showEnd
    .go [⟨token, c.line⟩] ⟨.text, trim, c.depth, c.line⟩ rest
  | none =>
    match longMark? (first :: t) with
    | some (m, rest) => one (.mark m) c.depth 0 rest
    | none =>
      match shortMark? first with
      | some m => one (.mark m) (depthAfter c.depth m) 0 t
      | none =>
        if first = '"' || first = '\'' then
          match Literal.closeString first t with
          | none => .fail [] .openString (c.line + breaks t)
          | some (inside, rest) => one (Literal.stringToken inside) c.depth (breaks inside) rest
        else if first.isDigit then
          match Literal.number (first :: t) with
          | (.ok token, rest) => one token c.depth 0 rest
          | (.error f, _) => .fail [] f c.line
        else if Literal.isNameStart first then
          one (.name (String.ofList (first :: t.takeWhile isNamePart))) c.depth 0
            (t.dropWhile isNamePart)
        else .fail [] .strayCharacter c.line

def step (c : Cursor) (t : Text) : Step :=
  match t with
  | [] => .done
  | first :: rest =>
    if c.zone = .text then textStep c t
    else if isSpace first then
      .go [] { c with line := c.line + breaks (t.takeWhile isSpace) } (t.dropWhile isSpace)
    else tokenStep c first rest

/-- The tokens read in at most `fuel` steps. -/
def run : Nat → Cursor → Text → TokenList
  | 0, _, _ => ⟨[], none⟩
  | fuel + 1, c, t =>
    match step c t with
    | .done => ⟨[], none⟩
    | .fail tokens f line => ⟨tokens, some (f, line)⟩
    | .go tokens c rest =>
      let more := run fuel c rest
      ⟨tokens ++ more.tokens, more.fault⟩

/-- The program without the line end it ends with. -/
def withoutLineEnd (t : Text) : Text :=
  let t := if t.getLast? = some '\n' then t.dropLast else t
  if t.getLast? = some '\r' then t.dropLast else t

/-- The tokens of a program. Every step uses up a character, so there are no
more steps than characters. -/
def tokens (program : Text) : TokenList :=
  run (program.length + 1) .start (withoutLineEnd program)

end Lexer

end ScriptedTemplate
