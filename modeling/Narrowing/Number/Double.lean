/-!
# Double precision numbers

A number is a double precision number of IEEE 754 with a single NaN.  It is kept as a sign
and an exact magnitude, so that everything said about numbers is said in natural numbers:
a finite magnitude is a whole count of units, one unit being `2 ^ (-1074)`, the smallest
positive magnitude.  This file holds the numbers, their bit patterns, the comparison that
programs make (`0 = -0`, and NaN differs from everything), and rounding of an exact
quotient to the nearest number, ties to an even significand.
-/

namespace Narrowing

/-- A finite magnitude, `significand * 2 ^ scale` units of `2 ^ (-1074)`. -/
structure Magnitude where
  /-- The digits, as a whole number of at most 53 bits. -/
  significand : Nat
  /-- How many times the digits are doubled. -/
  scale : Nat
  significand_lt : significand < Nat.pow 2 53
  scale_le : scale ≤ 2045
  /-- A scaled significand uses all of its 53 bits, so each magnitude is written once. -/
  normal : scale = 0 ∨ Nat.pow 2 52 ≤ significand
deriving DecidableEq

namespace Magnitude

/-- The magnitude with these two parts, if they are within range. -/
def ofParts? (significand scale : Nat) : Option Magnitude :=
  if h : significand < Nat.pow 2 53 ∧ scale ≤ 2045 ∧
      (scale = 0 ∨ Nat.pow 2 52 ≤ significand) then
    some ⟨significand, scale, h.1, h.2.1, h.2.2⟩
  else
    none

/-- Zero. -/
def zero : Magnitude := ⟨0, 0, by decide, by decide, Or.inl rfl⟩

instance : Inhabited Magnitude := ⟨zero⟩

/-- The magnitude as a count of units of `2 ^ (-1074)`. -/
def units (m : Magnitude) : Nat := m.significand * Nat.pow 2 m.scale

/-- Whether a quotient with this remainder rounds up: above one half always, at one half
when the quotient is odd. -/
def roundsUp (quotient remainder divisor : Nat) : Bool :=
  divisor < 2 * remainder || (2 * remainder == divisor && quotient % 2 == 1)

/-- The magnitude nearest to `numerator / denominator` units, a tie going to the even
significand; `none` when the quotient is too large for a finite magnitude. -/
def nearest? (numerator denominator : Nat) : Option Magnitude :=
  let scale := (numerator / denominator).log2 - 52
  let divisor := denominator * Nat.pow 2 scale
  let quotient := numerator / divisor
  let rounded :=
    if roundsUp quotient (numerator % divisor) divisor then quotient + 1 else quotient
  if rounded = Nat.pow 2 53 then ofParts? (Nat.pow 2 52) (scale + 1)
  else ofParts? rounded scale

end Magnitude

/-- A double precision number. -/
inductive Double where
  /-- Not a number. -/
  | nan
  /-- An infinity. -/
  | infinite (negative : Bool)
  /-- A finite number; there are two zeros, one for each sign. -/
  | finite (negative : Bool) (magnitude : Magnitude)
deriving DecidableEq, Inhabited

namespace Double

/-- Zero. -/
def zero : Double := .finite false .zero

/-- Whether this is NaN. -/
def isNaN : Double → Bool
  | .nan => true
  | _ => false

/-- Whether this is one of the two zeros. -/
def isZero : Double → Bool
  | .finite _ m => m.significand == 0
  | _ => false

/-- Numeric equality: NaN equals nothing, and the two zeros are equal. -/
def equal (x y : Double) : Bool :=
  (x.isZero && y.isZero) || (!x.isNaN && x == y)

/-- Whether this is one of the two infinities. -/
def isInfinite : Double → Bool
  | .infinite _ => true
  | _ => false

/-- The number without its sign. -/
def abs : Double → Double
  | .nan => .nan
  | .infinite _ => .infinite false
  | .finite _ m => .finite false m

/-- A count of units with a sign. -/
def signedUnits (negative : Bool) (m : Magnitude) : Int :=
  if negative then -(m.units : Int) else m.units

/-- Numeric order: NaN is neither below nor above a number, and neither zero is below the
other. -/
def lt : Double → Double → Bool
  | .finite a m, .finite b n => signedUnits a m < signedUnits b n
  | .infinite a, .infinite b => a && !b
  | .infinite a, .finite _ _ => a
  | .finite _ _, .infinite b => !b
  | _, _ => false

/-- Numeric order or equality. -/
def le (x y : Double) : Bool := x.lt y || x.equal y

/-! ### Rounding exact quantities -/

/-- How many units of `2 ^ (-1074)` make one. -/
def unitsPerOne : Nat := Nat.pow 2 1074

/-- The number with this sign and magnitude, an infinity if there is no magnitude. -/
def ofMagnitude (negative : Bool) : Option Magnitude → Double
  | some m => .finite negative m
  | none => .infinite negative

/-- The number nearest to `numerator / denominator` with the given sign. -/
def ofRatio (negative : Bool) (numerator denominator : Nat) : Double :=
  ofMagnitude negative (Magnitude.nearest? (numerator * unitsPerOne) denominator)

/-- The number nearest to a natural number. -/
def ofNat (n : Nat) : Double := ofRatio false n 1

/-- The number nearest to an integer. -/
def ofInt (n : Int) : Double := ofRatio (n < 0) n.natAbs 1

/-- The number nearest to `coefficient * 10 ^ exponent` with the given sign.  Exponents far
outside the range of finite numbers are settled without computing the power. -/
def ofDecimal (negative : Bool) (coefficient : Nat) (exponent : Int) : Double :=
  if coefficient = 0 then
    .finite negative .zero
  else if 400 < exponent then
    .infinite negative
  else if coefficient.log2 + 1 + exponent < -400 then
    .finite negative .zero
  else if 0 ≤ exponent then
    ofRatio negative (coefficient * Nat.pow 10 exponent.toNat) 1
  else
    ofRatio negative coefficient (Nat.pow 10 (-exponent).toNat)

/-- The integer that a number is, if it is one. -/
def toInt? : Double → Option Int
  | .finite negative m =>
    if m.units % unitsPerOne = 0 then
      let n : Int := (m.units / unitsPerOne : Nat)
      some (if negative then -n else n)
    else
      none
  | _ => none

/-! ### Bit patterns -/

/-- The number with a 64-bit pattern: a sign bit, eleven bits of exponent and 52 bits of
fraction.  Every NaN pattern gives the one NaN. -/
def ofBits (bits : UInt64) : Double :=
  let negative := Nat.pow 2 63 ≤ bits.toNat
  let exponent := bits.toNat / Nat.pow 2 52 % Nat.pow 2 11
  let fraction := bits.toNat % Nat.pow 2 52
  if exponent = 2047 then
    if fraction = 0 then .infinite negative else .nan
  else
    let parts := if exponent = 0 then Magnitude.ofParts? fraction 0
      else Magnitude.ofParts? (Nat.pow 2 52 + fraction) (exponent - 1)
    .finite negative (parts.getD .zero)

/-- The 64-bit pattern of a number.  The leading bit of a full significand carries into the
exponent, which is why the two parts are added. -/
def toBits : Double → UInt64
  | .nan => 0x7ff8000000000000
  | .infinite negative => (if negative then 0xfff0000000000000 else 0x7ff0000000000000)
  | .finite negative m =>
    UInt64.ofNat
      ((if negative then Nat.pow 2 63 else 0) + m.scale * Nat.pow 2 52 + m.significand)

/-- The number with a 32-bit single precision pattern.  Widening is exact. -/
def ofSingleBits (bits : UInt32) : Double :=
  let negative := Nat.pow 2 31 ≤ bits.toNat
  let exponent := bits.toNat / Nat.pow 2 23 % Nat.pow 2 8
  let fraction := bits.toNat % Nat.pow 2 23
  if exponent = 255 then
    if fraction = 0 then .infinite negative else .nan
  else if exponent = 0 then
    ofRatio negative fraction (Nat.pow 2 149)
  else
    ofRatio negative ((Nat.pow 2 23 + fraction) * Nat.pow 2 (exponent - 1)) (Nat.pow 2 149)

end Double

end Narrowing
