import ScriptedTemplate.Decimal.Shortest
import ScriptedTemplate.Text.Basic

/-
  Layouts — how the digits of a double are set out

  A layout says from which magnitudes on a number is written with an exponent.
  Whatever the layout, a number without exponent shows at least one digit on
  each side of the point, and the two zeros and the infinities keep their sign.
-/

namespace ScriptedTemplate

/-- Which magnitudes are written out in full: those from 10^`least` up to but
not including 10^`most`, where the magnitude is the power of ten of the first
digit. Without bounds every number is. -/
structure NumberLayout where
  least : Option Int
  most : Option Int
  deriving DecidableEq, Repr

namespace NumberLayout

/-- Every number is written out in full. -/
def positional : NumberLayout := ⟨none, none⟩

/-- Numbers below 10^-4 and from 10^16 on get an exponent. -/
def compact : NumberLayout := ⟨some (-4), some 16⟩

/-- Numbers below 10^-5 and from 10^16 on get an exponent. -/
def exchange : NumberLayout := ⟨some (-5), some 16⟩

/-- Whether a magnitude is written out in full. -/
def writesOut (l : NumberLayout) (magnitude : Int) : Bool :=
  (l.least.all fun e => e ≤ magnitude) && (l.most.all fun e => magnitude < e)

/-- Digits with the point `places` digits from the left, zeros filled in. -/
def inFull (digits : List Char) (places : Int) : Text :=
  if places ≤ 0 then ['0', '.'] ++ List.replicate (-places).toNat '0' ++ digits
  else
    let whole := digits.take places.toNat
    let part := digits.drop places.toNat
    whole ++ List.replicate (places.toNat - whole.length) '0' ++ ['.']
      ++ (if part = [] then ['0'] else part)

/-- Digits with the point behind the first one, and an exponent. -/
def withExponent (digits : List Char) (magnitude : Int) : Text :=
  let part := digits.drop 1
  digits.take 1 ++ (if part = [] then [] else '.' :: part) ++ ['e']
    ++ (if magnitude < 0 then ['-'] else []) ++ Nat.toDigits 10 magnitude.natAbs

def text (l : NumberLayout) (x : Float) : Text :=
  match Binary.ofFloat? x with
  | none => if x.isNaN then "NaN".toList else if x < 0 then "-inf".toList else "inf".toList
  | some b =>
    let sign := if b.negative then ['-'] else []
    if b.mantissa = 0 then sign ++ "0.0".toList
    else
      let d := Decimal.shortest b
      let digits := d.text
      let magnitude : Int := d.exponent + digits.length - 1
      sign ++ (if l.writesOut magnitude then inFull digits (magnitude + 1)
        else withExponent digits magnitude)

end NumberLayout

end ScriptedTemplate
