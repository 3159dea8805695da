import ScriptedTemplate.Decimal.Binary

/-
  Arithmetic on doubles

  The remainder is exact: what is left of the first number after taking the
  second away as often as it goes, with the sign of the first. Rounding to some
  places scales by a power of ten, rounds a half away from zero, and scales
  back.
-/

namespace ScriptedTemplate

namespace Binary

def nan : Float := 0.0 / 0.0

/-- The remainder of a division whose quotient is rounded toward zero. -/
def remainder (x y : Float) : Float :=
  match ofFloat? x, ofFloat? y with
  | none, _ => nan
  | some a, none => if y.isNaN then nan else toFloat a
  | some a, some b =>
    if b.mantissa = 0 then nan
    else
      let e := min a.exponent b.exponent
      let rest :=
        a.mantissa * twoTo (a.exponent - e).toNat % (b.mantissa * twoTo (b.exponent - e).toNat)
      if rest = 0 then toFloat ⟨a.negative, 0, -1074⟩
      else if 0 ≤ e then nearest a.negative (rest * twoTo e.toNat) 1
      else nearest a.negative rest (twoTo (-e).toNat)

def truncate (x : Float) : Float := if x < 0.0 then x.ceil else x.floor

/-- The whole quotient that leaves a remainder of zero or more. -/
def floorQuotient (x y : Float) : Float :=
  let q := truncate (x / y)
  if remainder x y < 0.0 then if 0.0 < y then q - 1.0 else q + 1.0 else q

/-- The power `x`^`n`, by repeated squaring. -/
def squarings : Nat → Float → Nat → Float → Float
  | 0, _, _, acc => acc
  | fuel + 1, x, n, acc =>
    let acc := if n % 2 = 1 then acc * x else acc
    if n / 2 = 0 then acc else squarings fuel (x * x) (n / 2) acc

/-- The double that ten to the power of `n` comes to. -/
def scaleOf (n : Int) : Float :=
  let p := squarings 64 10.0 n.natAbs 1.0
  if n < 0 then 1.0 / p else p

def roundTo (places : Int) (x : Float) : Float :=
  let scale := scaleOf places
  (scale * x).round / scale

/-- The whole number that is left of a double between two bounds when its
fraction is dropped. -/
def toWhole (low high : Int) (x : Float) : Int :=
  match ofFloat? x with
  | none => if x.isNaN then 0 else if x < 0.0 then low else high
  | some b =>
    let size : Nat :=
      if 0 ≤ b.exponent then b.mantissa * twoTo b.exponent.toNat
      else b.mantissa / twoTo (-b.exponent).toNat
    let n : Int := if b.negative then -(size : Int) else size
    if n < low then low else if high < n then high else n

end Binary

end ScriptedTemplate
