import Narrowing.Number.Shortest
/-!
# How numbers are written

A number is written with the digits of its shortest decimal.  A layout fixes the rest: for
which positions of the decimal point the digits are written out in full, whether a whole
number shows a fraction, how an exponent and an infinity are spelled, and whether a negative
zero shows its sign.  `forData` shows the number held by a date or a boxed number, and
`inFull` never uses an exponent.

The text of a number as a property key is `plain` or `scientific`.  Which of them it is
depends on how large the number is, and an exponent in it always has a sign.
-/

namespace Narrowing

/-- The decisions that turn the digits of a number into text. -/
structure NumberLayout where
  /-- The least position of the decimal point that is written in full. -/
  leastPoint : Int
  /-- The greatest position of the decimal point that is written in full. -/
  greatestPoint : Int
  /-- Whether a whole number written in full ends in `.0`. -/
  fraction : Bool
  /-- Whether an exponent that is not negative has a plus sign. -/
  plus : Bool
  /-- Whether a negative zero has a sign. -/
  signedZero : Bool
  /-- The text of positive infinity. -/
  infinity : String

namespace NumberLayout

/-- Text that writes every finite number in full, a whole one without a point. -/
def plain : NumberLayout := ⟨-400, 400, false, false, true, "inf"⟩

/-- Text that writes every number other than zero with an exponent. -/
def scientific : NumberLayout := ⟨1, 0, false, false, true, "inf"⟩

/-- Data text: in full from `0.0001` up to but not including `10 ^ 16`, and then with at
least one digit after the point. -/
def forData : NumberLayout := ⟨-3, 16, true, false, true, "inf"⟩

/-- Text that writes every finite number in full, with at least one digit after the point. -/
def inFull : NumberLayout := ⟨-400, 400, true, false, true, "inf"⟩

/-- Digits written out in full around a decimal point. -/
def writeInFull (fraction : Bool) (digits : List Char) (point : Int) : List Char :=
  if point ≤ 0 then
    '0' :: '.' :: (List.replicate (-point).toNat '0' ++ digits)
  else if point < digits.length then
    digits.take point.toNat ++ '.' :: digits.drop point.toNat
  else
    digits ++ List.replicate (point.toNat - digits.length) '0' ++
      (if fraction then ['.', '0'] else [])

/-- Digits with a point after the first and an exponent. -/
def writeExponent (plus : Bool) (digits : List Char) (point : Int) : List Char :=
  let exponent := point - 1
  digits.take 1 ++ (if digits.length ≤ 1 then [] else '.' :: digits.drop 1) ++
    'e' :: ((if exponent < 0 then ['-'] else if plus then ['+'] else []) ++
      Nat.toDigits 10 exponent.natAbs)

/-- The text of a decimal that is not zero. -/
def writeDecimal (layout : NumberLayout) (d : Decimal) : List Char :=
  if layout.leastPoint ≤ d.point ∧ d.point ≤ layout.greatestPoint then
    writeInFull layout.fraction d.digits d.point
  else
    writeExponent layout.plus d.digits d.point

/-- The characters of a number's text. -/
def write (layout : NumberLayout) : Double → List Char
  | .nan => ['N', 'a', 'N']
  | .infinite negative => (if negative then ['-'] else []) ++ layout.infinity.toList
  | .finite negative m =>
    if m.significand = 0 then
      (if negative && layout.signedZero then ['-'] else []) ++
        '0' :: (if layout.fraction then ['.', '0'] else [])
    else
      (if negative then ['-'] else []) ++ layout.writeDecimal m.shortest

end NumberLayout

namespace Double

/-- Key text has an exponent from this number on. -/
def leastLarge : Double := ofDecimal false 1 21

/-- Key text has an exponent below this number. -/
def leastPlain : Double := ofDecimal false 1 (-6)

/-- A text in which an exponent without a sign has got a plus sign. -/
def signExponent (cs : List Char) : List Char :=
  match cs.dropWhile (· != 'e') with
  | mark :: exponent =>
    if exponent.head? = some '-' then cs else cs.takeWhile (· != 'e') ++ mark :: '+' :: exponent
  | [] => cs

/-- The text of a number as a property key. -/
def keyText (x : Double) : String :=
  if x.isNaN then "NaN"
  else if x.isInfinite then (if zero.lt x then "" else "-") ++ "Infinity"
  else if x.equal zero then "0"
  else if leastLarge.le x.abs || x.abs.lt leastPlain then
    String.ofList (signExponent (NumberLayout.scientific.write x))
  else String.ofList (NumberLayout.plain.write x)

/-- The text of a number held as data. -/
def dataText (x : Double) : String := String.ofList (NumberLayout.forData.write x)

/-- The text of a number written without an exponent. -/
def fullText (x : Double) : String := String.ofList (NumberLayout.inFull.write x)

end Double

end Narrowing
