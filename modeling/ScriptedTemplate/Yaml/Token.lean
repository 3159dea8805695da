import ScriptedTemplate.Yaml.Mark

/-
  Tokens — the words of a YAML text

  Besides what is written there are tokens for what the indentation says: a
  block collection begins with a token of its own and ends with `blockEnd`, and
  `key` stands before every key of a mapping, whether a question mark is written
  or only the colon after it.
-/

namespace ScriptedTemplate

namespace Yaml

/-- How a scalar is written. -/
inductive Style where
  | plain
  | singleQuoted
  | doubleQuoted
  | literal
  | folded
  deriving DecidableEq, Repr

/-- What a token says. -/
inductive Lexeme where
  | streamEnd
  | version (major minor : Nat)
  | tagPrefix (handle uri : Text)
  | documentStart
  | documentEnd
  | blockSequence
  | blockMapping
  | blockEnd
  | sequenceBegin
  | sequenceEnd
  | mappingBegin
  | mappingEnd
  | dash
  | comma
  | key
  | value
  | reference (name : Text)
  | anchor (name : Text)
  | tag (handle suffix : Text)
  | scalar (content : Text) (style : Style)
  deriving DecidableEq, Repr

/-- A token, where it begins and where it ends. -/
structure Token where
  lexeme : Lexeme
  start : Mark
  stop : Mark
  deriving DecidableEq, Repr

end Yaml

end ScriptedTemplate
