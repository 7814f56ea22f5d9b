import Narrowing.Text.Visible
/-!
# Text

Texts are read and written as lists of characters.  This file has what is asked of a text
without regard to who asks: white space at its ends, numbers that fit into a machine word, the
form in which it is shown between quotes, and three formats that the whole of it may have.
-/

namespace Narrowing.Text

/-! ### White space

The characters with the Unicode property `White_Space`. -/

/-- The ranges of white space, ends included. -/
def blankRanges : List (Nat × Nat) := [
  (0x09, 0x0d), (0x20, 0x20), (0x85, 0x85), (0xa0, 0xa0), (0x1680, 0x1680),
  (0x2000, 0x200a), (0x2028, 0x2029), (0x202f, 0x202f), (0x205f, 0x205f), (0x3000, 0x3000)]

/-- Whether a character is white space. -/
def isBlank (c : Char) : Bool :=
  blankRanges.any fun range => range.1 ≤ c.toNat && c.toNat ≤ range.2

/-- The characters without white space at either end. -/
def trimBlank (cs : List Char) : List Char :=
  ((cs.dropWhile isBlank).reverse.dropWhile isBlank).reverse

/-! ### Numbers in machine words

A machine word holds the natural numbers below its size.  A number is read into a word digit by
digit, and nothing is read from digits that stand for a larger number than the word holds,
whichever digit is the one too many. -/

section

variable {size : Nat}

/-- One more digit after a number, if the word still holds it. -/
def pushDigit? (n : Fin size) (c : Char) : Option (Fin size) :=
  if h : c.isDigit ∧ 10 * n.val + (c.toNat - '0'.toNat) < size then some ⟨_, h.2⟩ else none

/-- The number that digits stand for, which may begin with zeros. -/
def readDigits? (digits : List Char) : Option (Fin size) :=
  if h : digits ≠ [] ∧ 0 < size then digits.foldlM pushDigit? ⟨0, h.2⟩ else none

/-- The number that is read from digits, which may follow a plus sign. -/
def readWord? : List Char → Option (Fin size)
  | '+' :: digits => readDigits? digits
  | digits => readDigits? digits

end

/-! ### Quoted text

Text is shown between double quotes.  Inside, a quote and a backslash follow a backslash, a
tab, a line feed, a carriage return and NUL have escapes of one letter, and any other
character that is not visible is written as its code point in braces.  Which characters are
visible depends on the version of the tables, so the quoting is given them as a test. -/

/-- A character inside quotes, given which characters are visible. -/
def escapeWith (visible : Char → Bool) (c : Char) : List Char :=
  if c = '"' then ['\\', '"']
  else if c = '\\' then ['\\', '\\']
  else if c = '\n' then ['\\', 'n']
  else if c = '\r' then ['\\', 'r']
  else if c = '\t' then ['\\', 't']
  else if c = '\x00' then ['\\', '0']
  else if visible c then [c]
  else '\\' :: 'u' :: '\x7b' :: (Nat.toDigits 16 c.toNat ++ ['\x7d'])

/-- The characters of a text between quotes, given which characters are visible. -/
def quoteCharsWith (visible : Char → Bool) (cs : List Char) : List Char :=
  '"' :: (cs.flatMap (escapeWith visible) ++ ['"'])

/-- A text between quotes, given which characters are visible. -/
def quoteWith (visible : Char → Bool) (s : String) : String :=
  String.ofList (quoteCharsWith visible s.toList)

/-- A text between quotes. -/
def quote (s : String) : String := quoteWith isVisible s

/-! ### Formats

Three formats that a whole text may have: a decimal number, hexadecimal digits, and base 64
with padding.  Each test covers all characters of the text and admits ASCII characters only. -/

/-- The characters after an optional sign. -/
def dropSign : List Char → List Char
  | '+' :: rest => rest
  | '-' :: rest => rest
  | cs => cs

/-- Whether the characters are decimal digits, at least one. -/
def isDigits (cs : List Char) : Bool := !cs.isEmpty && cs.all Char.isDigit

/-- Whether the characters are nothing, or an exponent mark, an optional sign and digits. -/
def isExponent : List Char → Bool
  | [] => true
  | c :: rest => (c == 'e' || c == 'E') && isDigits (dropSign rest)

/-- Whether the characters are an optional fraction and an optional exponent.  A fraction
may have a point and no digits. -/
def isFraction : List Char → Bool
  | '.' :: rest => isExponent (rest.dropWhile Char.isDigit)
  | cs => isExponent cs

/-- Whether the characters are a number: an optional sign, digits, an optional fraction and
an optional exponent. -/
def isNumber (cs : List Char) : Bool :=
  let unsigned := dropSign cs
  !(unsigned.takeWhile Char.isDigit).isEmpty && isFraction (unsigned.dropWhile Char.isDigit)

/-- Whether a character is a hexadecimal digit of either case. -/
def isHexDigit (c : Char) : Bool :=
  c.isDigit || ('a' ≤ c && c ≤ 'f') || ('A' ≤ c && c ≤ 'F')

/-- Whether the characters are hexadecimal digits, possibly none. -/
def isHex (cs : List Char) : Bool := cs.all isHexDigit

/-- Whether a character is one of the 64 digits of base 64. -/
def isBase64Digit (c : Char) : Bool :=
  ('A' ≤ c && c ≤ 'Z') || ('a' ≤ c && c ≤ 'z') || c.isDigit || c == '+' || c == '/'

/-- Whether the characters are groups of four base 64 digits, at least one group, where the
last may end in one or two padding characters. -/
def isBase64 : List Char → Bool
  | [a, b, c, d] =>
    isBase64Digit a && isBase64Digit b &&
      ((isBase64Digit c && (isBase64Digit d || d == '=')) || (c == '=' && d == '='))
  | a :: b :: c :: d :: rest =>
    isBase64Digit a && isBase64Digit b && isBase64Digit c && isBase64Digit d && isBase64 rest
  | _ => false

end Narrowing.Text
