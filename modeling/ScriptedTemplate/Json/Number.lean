import ScriptedTemplate.Json.Basic
import ScriptedTemplate.Decimal.Binary

/-
  Numbers in JSON

  A number without fraction and exponent is whole when it fits 64 bits, signed
  when it is negative; minus zero and everything wider is a double. The double
  of a number with more digits than 64 bits hold leaves the excess digits out,
  and its power of ten is applied in at most a few rounded steps, so it can
  differ in the last place from the nearest double. A number beyond the largest
  double is refused.
-/

namespace ScriptedTemplate

namespace Json

/-- A number taken apart: the leading digits as one whole number below 2^64, the
power of ten it is to be multiplied with, and whether it was written as a whole
number. -/
structure Digits where
  negative : Bool
  digits : Nat
  exponent : Int
  whole : Bool
  deriving DecidableEq, Repr

def largestWhole : Nat := twoTo 64 - 1

def digitValue (c : Char) : Nat := c.toNat - '0'.toNat

/-- The double nearest to a power of ten. -/
def powerOfTen (n : Nat) : Float := Binary.ofDecimal false 1 n

/-- `x` times 10^`exponent`, each step rounded; beyond the largest double there
is no answer. -/
def scale : Nat → Float → Int → Option Float
  | 0, x, _ => some x
  | fuel + 1, x, exponent =>
    if 0 ≤ exponent then
      if exponent ≤ 308 then
        let y := x * powerOfTen exponent.toNat
        if y.isInf then none else some y
      else if x == 0.0 then some x
      else none
    else if -308 ≤ exponent then some (x / powerOfTen exponent.natAbs)
    else if x == 0.0 then some x
    else scale fuel (x / powerOfTen 308) (exponent + 308)

/-- The double of a number taken apart; three steps already take every double
to zero. -/
def Digits.float? (d : Digits) : Option Float :=
  (scale 8 (Binary.ofDecimal false d.digits 0) d.exponent).map fun x =>
    if d.negative then -x else x

def Digits.number? (d : Digits) : Option Json :=
  if !d.whole then d.float?.map .float
  else if !d.negative then some (.int d.digits)
  else if 0 < d.digits && d.digits ≤ twoTo 63 then some (.int (-(d.digits : Int)))
  else d.float?.map .float

end Json

end ScriptedTemplate
