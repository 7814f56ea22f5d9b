import Narrowing.Number.Double
/-!
# Shortest decimals

The decimal that stands for a finite magnitude is the one with the fewest digits among
those that round to it; of several with that many digits it is the nearest.  Everything is
exact: a unit `2 ^ (-1074)` is `5 ^ 1074` times `10 ^ (-1074)`, so a magnitude, and the
decimals near it, are whole numbers of `10 ^ (-1074)`.

The search runs over the decimal grids of steps `10 ^ j` from coarse to fine.  On each grid
only the two points around the magnitude can round to it if any point does, so the first
grid on which one of the two rounds to it has the fewest digits.
-/

namespace Narrowing

/-- A decimal, `coefficient * 10 ^ exponent`. -/
structure Decimal where
  coefficient : Nat
  exponent : Int
deriving DecidableEq, Repr, Inhabited

namespace Decimal

/-- The digits of the coefficient, leading digit first. -/
def digits (d : Decimal) : List Char := Nat.toDigits 10 d.coefficient

/-- Where the decimal point stands: the decimal is `0.d₁d₂… * 10 ^ point`. -/
def point (d : Decimal) : Int := d.digits.length + d.exponent

end Decimal

namespace Magnitude

/-- The magnitude as a count of `10 ^ (-1074)`. -/
def tenths (m : Magnitude) : Nat := m.units * Nat.pow 5 1074

/-- Four times the lower end, in counts of `10 ^ (-1074)`, of the quantities that round to
the magnitude.  It is half a step below, and the step below a power of two is half as
wide. -/
def lowerEnd (m : Magnitude) : Nat :=
  (4 * m.significand - (if m.significand = Nat.pow 2 52 ∧ m.scale ≠ 0 then 1 else 2)) *
    Nat.pow 2 m.scale * Nat.pow 5 1074

/-- Four times the upper end of the quantities that round to the magnitude. -/
def upperEnd (m : Magnitude) : Nat :=
  (4 * m.significand + 2) * Nat.pow 2 m.scale * Nat.pow 5 1074

/-- Whether `count * 10 ^ (-1074)` rounds to the magnitude.  The ends do when the
significand is even. -/
def isRounded (m : Magnitude) (count : Nat) : Bool :=
  if m.significand % 2 = 0 then
    m.lowerEnd ≤ 4 * count && 4 * count ≤ m.upperEnd
  else
    m.lowerEnd < 4 * count && 4 * count < m.upperEnd

/-- The first grid, from step `10 ^ j` downwards, with a point that rounds to the magnitude:
the point's multiple of the step, and the step's exponent.  A tie between two points goes
to the larger. -/
def searchGrid (m : Magnitude) : Nat → Nat × Nat
  | 0 => (m.tenths, 0)
  | j + 1 =>
    let step := Nat.pow 10 (j + 1)
    let below := m.tenths / step
    match m.isRounded (below * step), m.isRounded ((below + 1) * step) with
    | true, true =>
      if 2 * (m.tenths % step) < step then (below, j + 1) else (below + 1, j + 1)
    | true, false => (below, j + 1)
    | false, true => (below + 1, j + 1)
    | false, false => m.searchGrid j

/-- The exponent of a step greater than a tenth of a count, as `2 ^ 93 < 10 ^ 28`. -/
def coarsest (count : Nat) : Nat := 28 * (count.log2 + 1) / 93

/-- The shortest decimal that rounds to a magnitude other than zero. -/
def shortest (m : Magnitude) : Decimal :=
  let found := m.searchGrid (coarsest m.tenths)
  ⟨found.1, (found.2 : Int) - 1074⟩

end Magnitude

end Narrowing
