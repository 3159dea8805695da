import ScriptedTemplate.Text.Basic

/-
  Digits — the numbers that digits stand for

  Digits beyond nine are letters, of either case. A text of digits stands for a
  number in every base that is larger than all its digits; the empty text stands
  for zero.
-/

namespace ScriptedTemplate

namespace Text

def digit? (c : Char) : Option Nat :=
  if c.isDigit then some (c.toNat - '0'.toNat)
  else if 'a' ≤ c && c ≤ 'z' then some (c.toNat - 'a'.toNat + 10)
  else if 'A' ≤ c && c ≤ 'Z' then some (c.toNat - 'A'.toNat + 10)
  else none

/-- The value of a digit below a base. -/
def digitBelow? (base : Nat) (c : Char) : Option Nat := (digit? c).filter (· < base)

/-- The number that some digits stand for; every digit is below the base. -/
def digits? (base : Nat) (t : Text) : Option Nat :=
  t.foldl (fun acc c =>
    match acc, digitBelow? base c with
    | some n, some d => some (n * base + d)
    | _, _ => none) (some 0)

end Text

end ScriptedTemplate
