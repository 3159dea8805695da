import ScriptedTemplate.Decimal.Layout

/-
  Places — a double with as many digits as asked for

  A double is rounded to a number of places behind the point, or to a number of
  significant digits, exactly; of two decimals equally near the one with the
  even last digit is taken. The sign is not written here.
-/

namespace ScriptedTemplate

namespace Binary

/-- The size of a number times 10^`places`, rounded to a whole number. -/
def scaled (b : Binary) (places : Int) : Nat :=
  roundDiv (b.mantissa * twoTo b.exponent.toNat * tenTo places.toNat)
    (twoTo (-b.exponent).toNat * tenTo (-places).toNat)

/-- The digits of a number, zeros before them up to a width. -/
def padded (width n : Nat) : Text :=
  let digits := Nat.toDigits 10 n
  List.replicate (width - digits.length) '0' ++ digits

/-- The size of a number with `places` digits behind the point. -/
def fixed (places : Nat) (b : Binary) : Text :=
  let digits := padded (places + 1) (b.scaled places)
  let whole := digits.length - places
  digits.take whole ++ if places = 0 then [] else '.' :: digits.drop whole

/-- The size of a number as a decimal with one digit before the point and
`places` behind it: its digits, and the power of ten of the first one. -/
def leading (places : Nat) (b : Binary) : Nat × Int :=
  if b.mantissa = 0 then (0, 0)
  else
    let d := Decimal.shortest b
    let guess : Int := d.exponent + d.text.length - 1
    let tried := [guess - 1, guess, guess + 1].map fun e => (b.scaled (places - e), e)
    (tried.find? fun (n, _) => tenTo places ≤ n && n < tenTo (places + 1)).getD (0, 0)

/-- A power of ten as an exponent of two digits or more. -/
def exponentText (e : Int) : Text :=
  ['e', if e < 0 then '-' else '+'] ++ padded 2 e.natAbs

/-- The size of a number with an exponent and `places` digits behind the
point. -/
def scientific (places : Nat) (b : Binary) : Text :=
  let (n, e) := b.leading places
  let digits := padded (places + 1) n
  digits.take 1 ++ (if places = 0 then [] else '.' :: digits.drop 1) ++ exponentText e

/-- A decimal without the zeros at its end, and without a point that nothing
follows. -/
def withoutZeros (t : Text) : Text :=
  if t.contains '.' then
    let t := (t.reverse.dropWhile (· == '0')).reverse
    if t.getLast? = some '.' then t.dropLast else t
  else t

/-- The size of a number with so many significant digits, in full where it is
neither very large nor very small; zeros at the end are kept if asked for. -/
def general (digits : Nat) (keepZeros : Bool) (b : Binary) : Text :=
  let digits := max digits 1
  let (_, e) := b.leading (digits - 1)
  let tidy (t : Text) : Text := if keepZeros then t else withoutZeros t
  if -4 ≤ e && e < digits then tidy (b.fixed ((digits : Int) - 1 - e).toNat)
  else
    let t := b.scientific (digits - 1)
    tidy (t.takeWhile (· != 'e')) ++ t.dropWhile (· != 'e')

end Binary

end ScriptedTemplate
