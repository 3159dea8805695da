import ScriptedTemplate.Yaml.Lexer
import ScriptedTemplate.Yaml.Node

/-
  From tokens to a document

  A node can have an anchor and a tag, in either order. Where a node is expected
  and nothing is written stands an empty scalar. In a flow sequence a single
  pair is a mapping of its own; if its key is missing, the token that shows so
  is taken with it.
-/

namespace ScriptedTemplate

namespace Yaml

/-- Where reading stands: the tokens that are left and the fault after them,
what handles stand for, the numbers of anchors by name, the nodes that have
anchors, and the break, once there is one. -/
structure Progress where
  tokens : List Token
  fault : Option Fault
  handles : List (Text × Text)
  numbers : List (Text × Nat)
  anchored : List (Nat × Node)
  stopped : Option Break

/-- Reading that goes on after a break, to end what is open. -/
abbrev Building := StateM Progress

/-- Reading that a break ends. -/
abbrev Parsing := ExceptT Break Building

/-- Take the next token away. -/
def Building.skip : Building Unit := modify fun s => { s with tokens := s.tokens.tail }

namespace Parsing

def fault {α : Type} (p : Problem) (m : Mark) (during : Option (Activity × Mark)) : Parsing α :=
  throw (.fault ⟨p, m, during⟩)

def peek : Parsing Token := do
  let s ← get
  match s.tokens with
  | t :: _ => return t
  | [] => throw (.fault (s.fault.getD ⟨.endOfStream, .start, none⟩))

def skip : Parsing Unit := Building.skip

/-- Take the next token away, and look at the one after it. -/
def advance : Parsing Token := do skip; peek

/-- What a handle stands for, with a suffix. -/
def resolveTag (handle suffix : Text) (m start : Mark) : Parsing Text := do
  if handle = [] then return suffix
  match (← get).handles.find? (·.1 == handle) with
  | some (_, uri) => return uri ++ suffix
  | none => fault .undefinedHandle m (some (.node, start))

def register (name : Text) : Parsing Nat := do
  let s ← get
  let n := s.numbers.length
  set { s with numbers := (name, n) :: s.numbers.filter (·.1 != name) }
  return n

end Parsing

/-- What can stand before a node: where that begins, the anchor, the tag as it is
written with its place. -/
structure Properties where
  start : Mark
  anchor : Option Text
  tag : Option (Text × Text × Mark)

/-- The kinds of collection. -/
inductive Shape where
  | blockSequence
  | looseSequence
  | flowSequence
  | blockMapping
  | flowMapping
  deriving DecidableEq, Repr

/-- What a node begins with: it is complete, or it is a collection with its
place, tag, anchor's number, and the place of its first token. -/
inductive Opening where
  | complete (n : Node)
  | collection (shape : Shape) (m : Mark) (tag : Option Text) (number : Option Nat) (since : Mark)

namespace Parsing

/-- What stands before a node. -/
def properties : Parsing Properties := do
  let t ← peek
  match t.lexeme with
  | .anchor name =>
    let u ← advance
    match u.lexeme with
    | .tag h s => skip; return ⟨t.start, some name, some (h, s, u.start)⟩
    | _ => return ⟨t.start, some name, none⟩
  | .tag h s =>
    let u ← advance
    match u.lexeme with
    | .anchor name => skip; return ⟨t.start, some name, some (h, s, t.start)⟩
    | _ => return ⟨t.start, none, some (h, s, t.start)⟩
  | _ => return ⟨t.start, none, none⟩

def record (number : Option Nat) (n : Node) : Building Node := do
  match number with
  | some k => modify fun s => { s with anchored := (k, n) :: s.anchored }
  | none => pure ()
  return n

/-- The beginning of a node, in a block or in a flow collection; where
`mayBeLoose`, a sequence can stand without indentation of its own. -/
def opening (inBlock mayBeLoose : Bool) : Parsing Opening := do
  let first ← peek
  match first.lexeme with
  | .reference name =>
    match (← get).numbers.find? (·.1 == name) with
    | some (_, n) => skip; return .complete (.reference first.start n)
    | none => throw (.unknownAnchor first.start)
  | _ =>
    let p ← properties
    let t ← peek
    let tag ←
      match p.tag with
      | some (h, s, m) => some <$> resolveTag h s m p.start
      | none => pure none
    let collection (shape : Shape) : Parsing Opening := do
      return .collection shape p.start tag (← p.anchor.mapM register) t.start
    let complete (s : Scalar) : Parsing Opening := do
      let number ← p.anchor.mapM register
      return .complete (← record number (.scalar p.start s))
    match t.lexeme, inBlock, mayBeLoose with
    | .dash, _, true => collection .looseSequence
    | .scalar content style, _, _ =>
      skip
      complete ⟨content, style, if tag = some ['!'] then none else tag⟩
    | .sequenceBegin, _, _ => collection .flowSequence
    | .mappingBegin, _, _ => collection .flowMapping
    | .blockSequence, true, _ => collection .blockSequence
    | .blockMapping, true, _ => collection .blockMapping
    | _, _, _ =>
      if p.anchor.isSome || tag.isSome then complete ⟨[], .plain, tag⟩
      else fault .noContent t.start (some (if inBlock then .blockNode else .flowNode, p.start))

end Parsing

namespace Building

def stop (b : Break) : Building Node := do
  modify fun s => { s with stopped := some b }
  return .broken b

def nothing (m : Mark) : Building Node := return .scalar m .empty

def andThen {α β : Type} (p : Parsing α) (broken : Node → Building β) (next : α → Building β) :
    Building β := do
  match ← p.run with
  | .error b => broken (← stop b)
  | .ok a => next a

/-- The items of a sequence, of which one has been read; after a break there are
no more. -/
def item (n : Node) (more : Building (List Node)) : Building (List Node) := do
  if (← get).stopped.isSome then return [n]
  return n :: (← more)

/-- The entries of a mapping, of which the key of one has been read. -/
def entry (k : Node) (value : Building Node) (more : Building (List (Node × Node))) :
    Building (List (Node × Node)) := do
  match (← get).stopped with
  | some b => return [(k, .broken b)]
  | none =>
    let v ← value
    if (← get).stopped.isSome then return [(k, v)]
    return (k, v) :: (← more)

/-- The items of a sequence that is broken where the next one would stand. -/
def brokenItem (n : Node) : Building (List Node) := return [n]

/-- The entries of a mapping that is broken where the next one would stand. -/
def brokenEntry (n : Node) : Building (List (Node × Node)) := return [(n, n)]

mutual

def node : Nat → Bool → Bool → Building Node
  | 0, _, _ => nothing .start
  | fuel + 1, inBlock, mayBeLoose =>
    andThen (Parsing.opening inBlock mayBeLoose) pure fun o =>
      match o with
      | .complete n => return n
      | .collection shape m tag number since => do
        let n ←
          match shape with
          | .looseSequence => .sequence m tag <$> looseItems fuel
          | .blockSequence => .sequence m tag <$> do skip; blockItems fuel since
          | .flowSequence =>
            .sequence m tag <$> do skip; flowItems fuel since true
          | .blockMapping => .mapping m tag <$> do skip; blockEntries fuel since
          | .flowMapping =>
            .mapping m tag <$> do skip; flowEntries fuel since true
        Parsing.record number n

/-- The items of a block sequence that began at a place. -/
def blockItems : Nat → Mark → Building (List Node)
  | 0, _ => return []
  | fuel + 1, since =>
    andThen Parsing.peek brokenItem fun t =>
      match t.lexeme with
      | .dash =>
        andThen Parsing.advance brokenItem fun u => do
          let n ←
            match u.lexeme with
            | .dash => nothing t.stop
            | .blockEnd => nothing t.stop
            | _ => node fuel true false
          item n (blockItems fuel since)
      | .blockEnd => do skip; return []
      | _ => do
        brokenItem (← stop (.fault ⟨.noDash, t.start, some (.blockSequence, since)⟩))

/-- The items of a block sequence at the indentation of its mapping. -/
def looseItems : Nat → Building (List Node)
  | 0 => return []
  | fuel + 1 =>
    andThen Parsing.peek brokenItem fun t =>
      match t.lexeme with
      | .dash =>
        andThen Parsing.advance brokenItem fun u => do
          let n ←
            match u.lexeme with
            | .dash => nothing t.stop
            | .key => nothing t.stop
            | .value => nothing t.stop
            | .blockEnd => nothing t.stop
            | _ => node fuel true false
          item n (looseItems fuel)
      | _ => return []

/-- The entries of a block mapping that began at a place. -/
def blockEntries : Nat → Mark → Building (List (Node × Node))
  | 0, _ => return []
  | fuel + 1, since =>
    andThen Parsing.peek brokenEntry fun t =>
      match t.lexeme with
      | .key =>
        andThen Parsing.advance brokenEntry fun u => do
          let k ← blockPart fuel t u
          entry k (blockValue fuel) (blockEntries fuel since)
      | .blockEnd => do skip; return []
      | _ => do
        brokenEntry (← stop (.fault ⟨.noKey, t.start, some (.blockMapping, since)⟩))

/-- The value of an entry in a block mapping. -/
def blockValue : Nat → Building Node
  | 0 => nothing .start
  | fuel + 1 =>
    andThen Parsing.peek pure fun t =>
      match t.lexeme with
      | .value => andThen Parsing.advance pure fun u => blockPart fuel t u
      | _ => nothing t.start

/-- The key or the value that an indicator announces, given the token after
that. -/
def blockPart : Nat → Token → Token → Building Node
  | 0, _, _ => nothing .start
  | fuel + 1, t, u =>
    match u.lexeme with
    | .key => nothing t.stop
    | .value => nothing t.stop
    | .blockEnd => nothing t.stop
    | _ => node fuel true true

/-- The items of a flow sequence that began at a place. -/
def flowItems : Nat → Mark → Bool → Building (List Node)
  | 0, _, _ => return []
  | fuel + 1, since, isFirst =>
    andThen Parsing.peek brokenItem fun t =>
      if t.lexeme == .sequenceEnd then do skip; return []
      else if !isFirst && t.lexeme != .comma then do
        brokenItem (← stop (.fault ⟨.noCommaOrBracket, t.start, some (.flowSequence, since)⟩))
      else
        andThen (if isFirst then pure t else Parsing.advance) brokenItem fun t =>
          match t.lexeme with
          | .sequenceEnd => do skip; return []
          | .key => do
            skip
            let n ← pair fuel t.start
            item n (flowItems fuel since false)
          | _ => do
            let n ← node fuel false false
            item n (flowItems fuel since false)

/-- The mapping of a single pair in a flow sequence, after its key indicator. -/
def pair : Nat → Mark → Building Node
  | 0, m => nothing m
  | fuel + 1, m =>
    .mapping m none <$> andThen Parsing.peek brokenEntry fun t => do
      let k ←
        match t.lexeme with
        | .value => do skip; nothing t.stop
        | .comma => do skip; nothing t.stop
        | .sequenceEnd => do skip; nothing t.stop
        | _ => node fuel false false
      entry k (flowValue fuel .sequenceEnd)
        (andThen Parsing.peek brokenEntry fun _ => return [])

/-- The value of an entry in a flow collection that ends with a token. -/
def flowValue : Nat → Lexeme → Building Node
  | 0, _ => nothing .start
  | fuel + 1, closing =>
    andThen Parsing.peek pure fun t =>
      if t.lexeme == .value then
        andThen Parsing.advance pure fun u =>
          if u.lexeme == .comma || u.lexeme == closing then nothing u.start
          else node fuel false false
      else nothing t.start

/-- The entries of a flow mapping that began at a place. -/
def flowEntries : Nat → Mark → Bool → Building (List (Node × Node))
  | 0, _, _ => return []
  | fuel + 1, since, isFirst =>
    andThen Parsing.peek brokenEntry fun t =>
      if t.lexeme == .mappingEnd then do skip; return []
      else if !isFirst && t.lexeme != .comma then do
        brokenEntry (← stop (.fault ⟨.noCommaOrBrace, t.start, some (.flowMapping, since)⟩))
      else
        andThen (if isFirst then pure t else Parsing.advance) brokenEntry fun t =>
          match t.lexeme with
          | .mappingEnd => do skip; return []
          | .key =>
            andThen Parsing.advance brokenEntry fun u => do
              let k ←
                match u.lexeme with
                | .value => nothing u.start
                | .comma => nothing u.start
                | .mappingEnd => nothing u.start
                | _ => node fuel false false
              entry k (flowValue fuel .mappingEnd) (flowEntries fuel since false)
          | _ => do
            let k ← node fuel false false
            entry k (andThen Parsing.peek pure fun t => nothing t.start)
              (flowEntries fuel since false)

end

end Building

namespace Parsing

/-- What handles stand for when no directive says. -/
def standardHandles : List (Text × Text) :=
  [(['!'], ['!']), (['!', '!'], "tag:yaml.org,2002:".toList)]

/-- Read directives, then the rule that begins a document. -/
def directives : Nat → Bool → Parsing Unit
  | 0, _ => pure ()
  | fuel + 1, hasVersion => do
    let t ← peek
    match t.lexeme with
    | .version major minor =>
      if hasVersion then fault .duplicateVersion t.start none
      else if major ≠ 1 || (minor ≠ 1 && minor ≠ 2) then
        fault .incompatibleVersion t.start none
      else skip; directives fuel true
    | .tagPrefix h uri =>
      if (← get).handles.any (·.1 == h) then fault .duplicateTagPrefix t.start none
      else
        modify fun s => { s with handles := s.handles ++ [(h, uri)] }
        skip
        directives fuel hasVersion
    | .documentStart => skip
    | _ => fault .noDocumentStart t.start none

/-- Whether a token has to do with the bounds of documents and not with their
content. -/
def isBound : Lexeme → Bool
  | .version _ _ => true
  | .tagPrefix _ _ => true
  | .documentStart => true
  | .documentEnd => true
  | .streamEnd => true
  | _ => false

/-- Whether a document begins with a rule or a directive. -/
def isExplicit : Lexeme → Bool
  | .documentEnd => false
  | .streamEnd => false
  | l => isBound l

/-- Read the beginning of the first document: whether there is one, and where
its root is when nothing is written. -/
def documentStart : Parsing (Option (Option Mark)) := do
  let t ← peek
  if t.lexeme == .streamEnd then return none
  if isExplicit t.lexeme then
    directives ((← get).tokens.length + 1) false
    modify fun s =>
      { s with handles := s.handles ++ standardHandles.filter fun h => s.handles.all (·.1 != h.1) }
    let u ← peek
    return some (if isBound u.lexeme then some u.start else none)
  modify fun s => { s with handles := standardHandles }
  return some none

/-- Read the end of the first document: whether the text goes on. -/
def documentEnd : Parsing Bool := do
  let t ← peek
  if t.lexeme == .documentEnd then skip
  let s ← get
  match s.tokens.dropWhile (·.lexeme == .documentEnd) with
  | u :: _ => return u.lexeme != .streamEnd
  | [] => return true

end Parsing

def Building.document : Building Document := do
  let root ← Building.andThen Parsing.documentStart (fun n => return some n) fun d =>
    match d with
    | none => return none
    | some (some m) => some <$> Building.nothing m
    | some none => do
      some <$> Building.node (3 * (← get).tokens.length + 8) true false
  let s ← get
  if root.isNone || s.stopped.isSome then return ⟨root, s.anchored, s.stopped, false⟩
  match ← Parsing.documentEnd.run with
  | .error b => return ⟨root, s.anchored, some b, false⟩
  | .ok more => return ⟨root, s.anchored, none, more⟩

/-- The first document of a text. -/
def document (t : Text) : Document :=
  let (ts, fault) := tokens t
  (Building.document.run ⟨ts, fault, [], [], [], none⟩).1

end Yaml

end ScriptedTemplate
