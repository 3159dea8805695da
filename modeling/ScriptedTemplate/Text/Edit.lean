import ScriptedTemplate.Text.Blank
import ScriptedTemplate.Text.Case

/-
  Edits — splitting, replacing and setting out texts

  Lines end at line feeds, with a carriage return before the line feed belonging
  to the line end. Words are what stands between blanks. An empty separator
  stands at both ends of a text and between its characters.
-/

namespace ScriptedTemplate

namespace Text

/-- The pieces of a text between occurrences of a separator that is not empty;
`most` limits their number. -/
def piecesFrom (sep : Text) : Nat → Option Nat → Text → List Text
  | 0, _, t => [t]
  | fuel + 1, most, t =>
    if most = some 1 then [t]
    else
      match splitAt? sep t with
      | none => [t]
      | some (before, rest) => before :: piecesFrom sep fuel (most.map (· - 1)) rest

/-- The pieces of a text between its characters, with an empty one at either
end; `most` limits their number. -/
def characters (most : Option Nat) (t : Text) : List Text :=
  let all := [] :: t.map (fun c => [c]) ++ [[]]
  match most with
  | none => all
  | some n => if all.length ≤ n then all else all.take (n - 1) ++ [(all.drop (n - 1)).flatten]

/-- The pieces of a text between occurrences of a separator. -/
def pieces (sep : Text) (most : Option Nat) (t : Text) : List Text :=
  if most = some 0 then []
  else if sep = [] then characters most t
  else piecesFrom sep (t.length + 1) most t

def joined (sep : Text) : List Text → Text
  | [] => []
  | [t] => t
  | t :: ts => t ++ sep ++ joined sep ts

/-- The text with every occurrence of one text replaced by another. -/
def replaced (old new t : Text) : Text := joined new (pieces old none t)

def words (t : Text) : List Text :=
  (t.splitBy fun a b => isBlank a == isBlank b).filter fun w => !w.all isBlank

/-- The words of a text that begins with one, at most `most` of them; the last
one is the rest of the text. Blanks after the last word count as one more. -/
def wordsFrom : Nat → Text → List Text
  | 0, _ => []
  | 1, t => [t]
  | most + 2, t =>
    let rest := t.dropWhile (!isBlank ·)
    let more := rest.dropWhile isBlank
    t.takeWhile (!isBlank ·) ::
      if more != [] then wordsFrom (most + 1) more else if rest != [] then [rest] else []

/-- At most `most` words of a text. -/
def someWords (most : Nat) (t : Text) : List Text :=
  let t := t.dropWhile isBlank
  if t = [] then [] else wordsFrom most t

/-- The text without a carriage return at its end. -/
def dropReturn (t : Text) : Text := if t.getLast? = some '\r' then t.dropLast else t

def lines (t : Text) : List Text :=
  let all := pieces ['\n'] none t
  let complete := all.dropLast.map dropReturn
  match all.getLast? with
  | some (c :: cs) => complete ++ [c :: cs]
  | _ => complete

/-- The text without the given characters at its ends. -/
def trimOf (chars : Text) (t : Text) : Text :=
  ((t.dropWhile chars.contains).reverse.dropWhile chars.contains).reverse

/-- The first character in upper case, the rest in lower case. -/
def capitalize : Text → Text
  | [] => []
  | c :: t => CaseMap.upper.apply c ++ toLower t

/-- Whether a character is punctuation of the ASCII range. -/
def isPunctuation (c : Char) : Bool :=
  let n := c.toNat
  (33 ≤ n && n ≤ 47) || (58 ≤ n && n ≤ 64) || (91 ≤ n && n ≤ 96) || (123 ≤ n && n ≤ 126)

/-- Every word with its first character in upper case and the rest in lower
case; punctuation begins a new word too. -/
def titleFrom (atStart : Bool) : Text → Text
  | [] => []
  | c :: t =>
    if isPunctuation c || isBlank c then c :: titleFrom true t
    else if atStart then CaseMap.upper.apply c ++ titleFrom false t
    else CaseMap.lower.apply c ++ titleFrom false t

def title (t : Text) : Text := titleFrom true t

/-- The text without a line end at its end. -/
def dropLineEnd (t : Text) : Text := dropReturn (if t.getLast? = some '\n' then t.dropLast else t)

/-- The text with lines after the first indented by `width` spaces; the first
line and blank lines only when asked for. -/
def indent (width : Nat) (first blank : Bool) (t : Text) : Text :=
  let spaces : Text := List.replicate width ' '
  let shift (l : Text) : Text := if l = [] && !blank then [] else spaces ++ l
  let ls := pieces ['\n'] none (dropLineEnd t)
  let ls := if first then ls.map shift else ls.take 1 ++ (ls.drop 1).map shift
  dropLineEnd (ls.flatMap (· ++ ['\n']))

def escapedChar : Char → Text
  | '<' => "&lt;".toList
  | '>' => "&gt;".toList
  | '&' => "&amp;".toList
  | '"' => "&quot;".toList
  | '\'' => "&#x27;".toList
  | '/' => "&#x2f;".toList
  | c => [c]

def escaped (t : Text) : Text := t.flatMap escapedChar

end Text

end ScriptedTemplate
