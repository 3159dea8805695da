import ScriptedTemplate.Decimal.Binary
import ScriptedTemplate.Text.Digits

/-
  Reading decimals

  A decimal has a sign or none, digits, perhaps a point with digits, perhaps an
  exponent. A point needs a digit on one of its sides.
-/

namespace ScriptedTemplate

namespace Decimal

/-- The double nearest to a written decimal. -/
def float? (t : Text) : Option Float :=
  let (negative, t) :=
    match t with
    | '-' :: t => (true, t)
    | '+' :: t => (false, t)
    | t => (false, t)
  let whole := t.takeWhile Char.isDigit
  let t := t.dropWhile Char.isDigit
  let (part, t) :=
    match t with
    | '.' :: t => (t.takeWhile Char.isDigit, t.dropWhile Char.isDigit)
    | t => ([], t)
  if whole = [] && part = [] then none
  else
    let number (e : Int) : Option Float :=
      (Text.digits? 10 (whole ++ part)).map fun d =>
        Binary.ofDecimal negative d (e - part.length)
    match t with
    | [] => number 0
    | c :: t =>
      if c = 'e' || c = 'E' then
        let (down, t) :=
          match t with
          | '-' :: t => (true, t)
          | '+' :: t => (false, t)
          | t => (false, t)
        if t = [] then none
        else (Text.digits? 10 t).bind fun e => number (if down then -(e : Int) else e)
      else none

end Decimal

end ScriptedTemplate
