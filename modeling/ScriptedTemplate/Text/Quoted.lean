import ScriptedTemplate.Text.Shapeless

/-
  Quoted text — a text between quotes, everything odd escaped

  Inside containers and in log lines a text is shown between double quotes. A
  backslash, a double quote, a tab, a line feed, a carriage return and a null
  get a short escape; every other character without a shape of its own is shown
  by its code point.
-/

namespace ScriptedTemplate

namespace Text

/-- A character as it is shown between quotes. -/
def quoteChar (c : Char) : Text :=
  if c = '\\' then ['\\', '\\']
  else if c = '"' then ['\\', '"']
  else if c = '\t' then ['\\', 't']
  else if c = '\n' then ['\\', 'n']
  else if c = '\r' then ['\\', 'r']
  else if c.toNat = 0 then ['\\', '0']
  else if c.toNat < 0x20 || (0x7F ≤ c.toNat && isShapeless c) then
    "\\u\x7b".toList ++ Nat.toDigits 16 c.toNat ++ ['}']
  else [c]

def quoted (t : Text) : Text := '"' :: t.flatMap quoteChar ++ ['"']

end Text

end ScriptedTemplate
