import ScriptedTemplate.Yaml.Mark

/-
  Faults of a YAML text

  A fault says what was found or missed, where, and what was being read at the
  time with the place at which that began. A place at the very beginning of the
  text is left out of the message, and so is the second place when it is the
  first again.
-/

namespace ScriptedTemplate

namespace Yaml

/-- What is wrong. -/
inductive Problem where
  /-- A character that no text may contain, after this many bytes. -/
  | controlCharacter (offset : Nat)
  | noToken
  | noColon
  | entryNotAllowed
  | keyNotAllowed
  | valueNotAllowed
  | unknownDirective
  | noLineEnd
  | noDirectiveName
  | badDirectiveName
  | noVersionDot
  | longVersion
  | noVersion
  | noWhitespace
  | noSeparator
  | noHandleStart
  | noTagUri
  | noTagEnd
  | noEscapedOctet
  | badLeadingOctet
  | badTrailingOctet
  | noAnchorName
  | zeroIndentation
  | tabAsIndentation
  | documentRule
  | endOfStream
  | unknownEscape
  | noHexadecimal
  | badCodePoint
  | unexpectedColon
  | tabInIndentation
  | noDocumentStart
  | duplicateVersion
  | incompatibleVersion
  | duplicateTagPrefix
  | undefinedHandle
  | noContent
  | noDash
  | noKey
  | noCommaOrBracket
  | noCommaOrBrace
  deriving DecidableEq, Repr

def Problem.text : Problem → String
  | controlCharacter _ => "control characters are not allowed"
  | noToken => "found character that cannot start any token"
  | noColon => "could not find expected ':'"
  | entryNotAllowed => "block sequence entries are not allowed in this context"
  | keyNotAllowed => "mapping keys are not allowed in this context"
  | valueNotAllowed => "mapping values are not allowed in this context"
  | unknownDirective => "found unknown directive name"
  | noLineEnd => "did not find expected comment or line break"
  | noDirectiveName => "could not find expected directive name"
  | badDirectiveName => "found unexpected non-alphabetical character"
  | noVersionDot => "did not find expected digit or '.' character"
  | longVersion => "found extremely long version number"
  | noVersion => "did not find expected version number"
  | noWhitespace => "did not find expected whitespace"
  | noSeparator => "did not find expected whitespace or line break"
  | noHandleStart => "did not find expected '!'"
  | noTagUri => "did not find expected tag URI"
  | noTagEnd => "did not find the expected '>'"
  | noEscapedOctet => "did not find URI escaped octet"
  | badLeadingOctet => "found an incorrect leading UTF-8 octet"
  | badTrailingOctet => "found an incorrect trailing UTF-8 octet"
  | noAnchorName => "did not find expected alphabetic or numeric character"
  | zeroIndentation => "found an indentation indicator equal to 0"
  | tabAsIndentation => "found a tab character where an indentation space is expected"
  | documentRule => "found unexpected document indicator"
  | endOfStream => "found unexpected end of stream"
  | unknownEscape => "found unknown escape character"
  | noHexadecimal => "did not find expected hexadecimal number"
  | badCodePoint => "found invalid Unicode character escape code"
  | unexpectedColon => "found unexpected ':'"
  | tabInIndentation => "found a tab character that violates indentation"
  | noDocumentStart => "did not find expected <document start>"
  | duplicateVersion => "found duplicate %YAML directive"
  | incompatibleVersion => "found incompatible YAML document"
  | duplicateTagPrefix => "found duplicate %TAG directive"
  | undefinedHandle => "found undefined tag handle"
  | noContent => "did not find expected node content"
  | noDash => "did not find expected '-' indicator"
  | noKey => "did not find expected key"
  | noCommaOrBracket => "did not find expected ',' or ']'"
  | noCommaOrBrace => "did not find expected ',' or '\x7d'"

/-- What was being read. -/
inductive Activity where
  | nextToken
  | simpleKey
  | directive
  | versionDirective
  | tagPrefix
  | tagPrefixUri
  | tagPrefixHandle
  | tagPrefixHandleEnd
  | tag
  | tagUri
  | anchor
  | reference
  | blockScalar
  | quotedScalar
  | quotedEscape
  | plainScalar
  | node
  | blockNode
  | flowNode
  | blockSequence
  | blockMapping
  | flowSequence
  | flowMapping
  deriving DecidableEq, Repr

def Activity.text : Activity → String
  | nextToken => "while scanning for the next token"
  | simpleKey => "while scanning a simple key"
  | directive => "while scanning a directive"
  | versionDirective => "while scanning a %YAML directive"
  | tagPrefix => "while scanning a %TAG directive"
  | tagPrefixUri => "while parsing a %TAG directive"
  | tagPrefixHandle => "while scanning a tag directive"
  | tagPrefixHandleEnd => "while parsing a tag directive"
  | tag => "while scanning a tag"
  | tagUri => "while parsing a tag"
  | anchor => "while scanning an anchor"
  | reference => "while scanning an alias"
  | blockScalar => "while scanning a block scalar"
  | quotedScalar => "while scanning a quoted scalar"
  | quotedEscape => "while parsing a quoted scalar"
  | plainScalar => "while scanning a plain scalar"
  | node => "while parsing a node"
  | blockNode => "while parsing a block node"
  | flowNode => "while parsing a flow node"
  | blockSequence => "while parsing a block collection"
  | blockMapping => "while parsing a block mapping"
  | flowSequence => "while parsing a flow sequence"
  | flowMapping => "while parsing a flow mapping"

/-- What is wrong, where, and what was being read since when. -/
structure Fault where
  problem : Problem
  mark : Mark
  during : Option (Activity × Mark)
  deriving DecidableEq, Repr

namespace Fault

/-- Where the fault is; a character that no text may contain is placed by the
bytes before it. -/
def place (f : Fault) : String :=
  match f.problem with
  | .controlCharacter 0 => ""
  | .controlCharacter n => " at position " ++ toString n
  | _ => f.mark.suffix

def message (f : Fault) : String :=
  f.problem.text ++ f.place ++
    match f.during with
    | none => ""
    | some (a, m) =>
      ", " ++ a.text ++
        (if m.line = f.mark.line && m.column = f.mark.column then "" else m.suffix)

end Fault

def failed {α : Type} (p : Problem) (at_ : Mark) (a : Activity) (since : Mark) : Except Fault α :=
  .error ⟨p, at_, some (a, since)⟩

end Yaml

end ScriptedTemplate
