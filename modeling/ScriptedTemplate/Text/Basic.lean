/-
  Texts — the characters that everything here reads and writes

  A text is a list of characters. Templates, markers, payloads and programs are
  texts; `String` is kept for names and for finished messages.

  What is here: `Text.bytes`, the width of a text in UTF-8, which is the unit of
  every reported offset; `Text.first` and `Text.last`, the two ends of a text,
  measured in characters; and `Text.cut?`, the piece of a text between two byte
  offsets, which exists only when both offsets fall between characters.
-/

namespace ScriptedTemplate

/-- A text: its characters, in order. -/
abbrev Text := List Char

namespace Text

def ofString (s : String) : Text := s.toList

def bytes (t : Text) : Nat := t.foldr (fun c n => c.utf8Size + n) 0

/-- The first `n` characters, or all of them when there are fewer. -/
def first (n : Nat) (t : Text) : Text := t.take n

/-- The last `n` characters, or all of them when there are fewer. -/
def last (n : Nat) (t : Text) : Text := t.drop (t.length - n)

/-- What follows byte offset `n`; there is nothing to answer when the offset
lies past the end or inside a character. -/
def after? : Nat → Text → Option Text
  | 0, t => some t
  | _ + 1, [] => none
  | n + 1, c :: t => if c.utf8Size ≤ n + 1 then after? (n + 1 - c.utf8Size) t else none
termination_by _ t => t.length

/-- What precedes byte offset `n`, under the same condition as `after?`. -/
def before? : Nat → Text → Option Text
  | 0, _ => some []
  | _ + 1, [] => none
  | n + 1, c :: t =>
    if c.utf8Size ≤ n + 1 then (before? (n + 1 - c.utf8Size) t).map (c :: ·) else none
termination_by _ t => t.length

/-- The piece between byte offsets `i` and `j`. -/
def cut? (i j : Nat) (t : Text) : Option Text :=
  if i ≤ j then (after? i t).bind (before? (j - i)) else none

/-- Whether the text starts with `p`, and if so what follows it. -/
def stripPrefix? : Text → Text → Option Text
  | [], t => some t
  | _ :: _, [] => none
  | p :: ps, c :: t => if p = c then stripPrefix? ps t else none

/-- What precedes the first occurrence of `p` and what follows it. -/
def splitAt? (p : Text) : Text → Option (Text × Text)
  | [] => if p = [] then some ([], []) else none
  | c :: t =>
    match stripPrefix? p (c :: t) with
    | some rest => some ([], rest)
    | none => (splitAt? p t).map fun found => (c :: found.1, found.2)

end Text

end ScriptedTemplate
