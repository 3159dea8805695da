import ScriptedTemplate.Decimal.Binary

/-
  Shortest decimals — the fewest digits that read back

  Between a double and each of its neighbours lies a midpoint; a decimal between
  the two midpoints reads back as that double, and so does one on a midpoint
  when the mantissa is even. `shortest` looks for such a decimal with 1, 2, …
  17 digits: on each decimal grid only the two points next to the double can
  qualify, and of two that do the nearer one is taken.
-/

namespace ScriptedTemplate

/-- The number digits · 10^exponent. -/
structure Decimal where
  digits : Nat
  exponent : Int
  deriving DecidableEq, Repr

namespace Decimal

/-- `a · 2^i` against `b · 10^j`. -/
def compareScaled (a : Nat) (i : Int) (b : Nat) (j : Int) : Ordering :=
  compare (a * twoTo i.toNat * tenTo (-j).toNat) (b * tenTo j.toNat * twoTo (-i).toNat)

/-- The reals that round to a double, as multiples of a quarter of its last
place: from `low` to `high` around `middle`. -/
structure Gap where
  low : Nat
  middle : Nat
  high : Nat
  exponent : Int
  closed : Bool

/-- The gap of a positive double; below a power of two the lower neighbour is
only half as far away. -/
def gap (b : Binary) : Gap where
  low := 4 * b.mantissa - (if b.mantissa = twoTo 52 ∧ b.exponent ≠ -1074 then 1 else 2)
  middle := 4 * b.mantissa
  high := 4 * b.mantissa + 2
  exponent := b.exponent - 2
  closed := b.mantissa % 2 == 0

def Gap.contains (g : Gap) (d : Decimal) : Bool :=
  match compareScaled g.low g.exponent d.digits d.exponent,
      compareScaled g.high g.exponent d.digits d.exponent with
  | .lt, .gt => true
  | .eq, .gt => g.closed
  | .lt, .eq => g.closed
  | _, _ => false

/-- The largest multiple of 10^`e` that is not above the middle of the gap. -/
def Gap.floor (g : Gap) (e : Int) : Nat :=
  (g.middle * twoTo g.exponent.toNat * tenTo (-e).toNat)
    / (tenTo e.toNat * twoTo (-g.exponent).toNat)

/-- Of the two points of the grid of 10^`e` next to the middle, the nearer one
that lies in the gap. -/
def Gap.onGrid? (g : Gap) (e : Int) : Option Decimal :=
  let low : Decimal := ⟨g.floor e, e⟩
  let high : Decimal := ⟨g.floor e + 1, e⟩
  match g.contains low, g.contains high with
  | false, false => none
  | true, false => some low
  | false, true => some high
  | true, true =>
    match compareScaled (2 * g.middle) g.exponent (2 * low.digits + 1) e with
    | .lt => some low
    | .gt => some high
    | .eq => some (if low.digits % 2 = 0 then low else high)

/-- The power of ten of the first digit of the middle. -/
def Gap.magnitude (g : Gap) : Int :=
  let estimate : Int := ((g.middle.log2 : Int) + g.exponent) * 30103 / 100000
  let candidates := [estimate + 2, estimate + 1, estimate, estimate - 1]
  (candidates.find? fun e => 1 ≤ g.floor e).getD (estimate - 2)

/-- A decimal without the last digit when that is a zero. The point above the
double on the first grid can be ten units, and no other decimal that is found
ends in a zero. -/
def dropZero (d : Decimal) : Decimal :=
  if d.digits % 10 = 0 then ⟨d.digits / 10, d.exponent + 1⟩ else d

/-- A decimal with the fewest digits, at most 17, that reads back as the
double. -/
def shortest (b : Binary) : Decimal :=
  let g := gap b
  let top := g.magnitude
  let hit? := (List.range 17).findSome? fun (n : Nat) => g.onGrid? (top - n)
  dropZero (hit?.getD ⟨g.floor (top - 16), top - 16⟩)

def text (d : Decimal) : List Char := Nat.toDigits 10 d.digits

end Decimal

end ScriptedTemplate
