import ScriptedTemplate.Decimal.Power
/-
  Binary floats — numbers of the form m · 2^e, exactly

  A finite double is a sign, a mantissa and a power of two; `Binary.ofFloat?`
  reads these off its bits. In the other direction `nearest` gives the double
  closest to a fraction, ties to the even mantissa, and `ofDecimal` the double
  closest to d · 10^e. Everything between is exact arithmetic on `Nat`.
-/

namespace ScriptedTemplate

/-- The number ± mantissa · 2^exponent. -/
structure Binary where
  negative : Bool
  mantissa : Nat
  exponent : Int
  deriving DecidableEq, Repr

namespace Binary

/-- The number that a finite double stands for. -/
def ofFloat? (x : Float) : Option Binary :=
  let bits : Nat := x.toBits.toNat
  let negative := bits / twoTo 63 == 1
  let exponent : Nat := bits / twoTo 52 % 2048
  let fraction : Nat := bits % twoTo 52
  if exponent == 2047 then none
  else if exponent == 0 then some ⟨negative, fraction, -1074⟩
  else some ⟨negative, fraction + twoTo 52, (exponent : Int) - 1075⟩

/-- The double with this mantissa, below 2^53, and this exponent, which is at
least -1074; beyond the largest double it is infinite. -/
def toFloat (b : Binary) : Float :=
  let sign := if b.negative then twoTo 63 else 0
  let biased :=
    if b.mantissa < twoTo 52 then b.mantissa
    else (b.exponent + 1075).toNat * twoTo 52 + (b.mantissa - twoTo 52)
  Float.ofBits (UInt64.ofNat (sign + min biased (2047 * twoTo 52)))

/-- The quotient rounded to the nearest natural number, a tie to the even one. -/
def roundDiv (num den : Nat) : Nat :=
  let q := num / den
  let twice := 2 * (num % den)
  if twice < den then q else if den < twice then q + 1 else q + q % 2

/-- The double nearest to `num / den`, both positive: the exponent is chosen so
that the quotient has 53 binary digits, or as many as the smallest exponent
leaves. -/
def nearest (negative : Bool) (num den : Nat) : Float :=
  let guess : Int := (num.log2 : Int) - (den.log2 : Int) - 53
  let scaled (e : Int) : Nat × Nat :=
    if e < 0 then (num * twoTo (-e).toNat, den) else (num, den * twoTo e.toNat)
  let tooWide (e : Int) : Bool := let (n, d) := scaled e; decide (twoTo 53 ≤ n / d)
  let exact := if tooWide guess then guess + 1 else guess
  let e := max exact (-1074)
  let (n, d) := scaled e
  let m := roundDiv n d
  if m = twoTo 53 then toFloat ⟨negative, twoTo 52, e + 1⟩ else toFloat ⟨negative, m, e⟩

/-- The double nearest to `digits` · 10^`exponent`. -/
def ofDecimal (negative : Bool) (digits : Nat) (exponent : Int) : Float :=
  let size : Int := (Nat.toDigits 10 digits).length
  if digits = 0 then toFloat ⟨negative, 0, -1074⟩
  else if 310 < size + exponent then toFloat ⟨negative, twoTo 52, 2000⟩
  else if size + exponent < -330 then toFloat ⟨negative, 0, -1074⟩
  else if exponent < 0 then nearest negative digits (tenTo (-exponent).toNat)
  else nearest negative (digits * tenTo exponent.toNat) 1

end Binary

end ScriptedTemplate
