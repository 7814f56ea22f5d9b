import Narrowing.Number.Layout
import Narrowing.Text.Basic
/-!
# Property keys

A property is named by a text, by an index or by a symbol.  A text that is the decimal
numeral of an index names the same property as the index, so texts are turned into keys by
`Key.ofString`, which is where that is decided.  The greatest 32-bit number is no index of
an array, and as a text it stays a text.

A symbol is a unique name.  What tells two symbols apart is a 64-bit identity; the
description is only shown.  Two symbols are known to every program under fixed identities
below 16, which are never given out.
-/

namespace Narrowing

/-! ### Symbols -/

/-- A unique name with an optional description. -/
structure Symbol where
  /-- What tells symbols apart. -/
  identity : UInt64
  /-- The text that is shown. -/
  description : Option String
deriving DecidableEq, Inhabited

namespace Symbol

/-- The name of the method that iterates over a value. -/
def iterator : Symbol := ⟨1, some "Symbol.iterator"⟩

/-- The name of the method that iterates over a value asynchronously. -/
def asyncIterator : Symbol := ⟨2, some "Symbol.asyncIterator"⟩

/-- Whether two symbols are the same one; the description plays no part. -/
def same (s t : Symbol) : Bool := s.identity == t.identity

/-- What a table that hashes its keys is given of a symbol; the description plays no part. -/
def hashed (s : Symbol) : UInt64 := s.identity

/-- How a symbol is shown; the description is not quoted. -/
def describe (s : Symbol) : String := "Symbol(" ++ s.description.getD "" ++ ")"

end Symbol

/-! ### Keys -/

/-- The name of a property. -/
inductive Key where
  | string (text : String)
  | index (n : UInt32)
  | symbol (s : Symbol)
deriving DecidableEq, Inhabited

namespace Key

/-- Array indices lie below this number. -/
def indexLimit : Nat := 4294967295

/-- The index that is read from a text, if it is written as the text again. -/
def canonicalIndex? (s : String) : Option UInt32 :=
  ((Text.readWord? s.toList).map UInt32.ofFin).filter fun n =>
    n.toNat ≠ indexLimit ∧ Nat.toDigits 10 n.toNat = s.toList

/-- The key named by a text. -/
def ofString (s : String) : Key :=
  match canonicalIndex? s with
  | some n => .index n
  | none => .string s

/-- The key named by a natural number: an index, or its numeral when it is too large. -/
def ofNat (n : Nat) : Key :=
  if n < indexLimit then .index (UInt32.ofNat n) else .string (String.ofList (Nat.toDigits 10 n))

/-- The key named by a number: an index if it is a whole number in range, and otherwise its
text. -/
def ofDouble (x : Double) : Key :=
  match x.toInt? with
  | some n =>
    if 0 ≤ n ∧ n < indexLimit then .index (UInt32.ofNat n.toNat) else .string x.keyText
  | none => .string x.keyText

/-- The key `length`. -/
def length : Key := .string "length"

/-- Whether the key is a symbol. -/
def isSymbol : Key → Bool
  | .symbol _ => true
  | _ => false

/-- The index, if the key is one. -/
def index? : Key → Option UInt32
  | .index n => some n
  | _ => none

/-- The text, if the key is one. -/
def string? : Key → Option String
  | .string s => some s
  | _ => none

/-- Indices come first, then texts, then symbols. -/
def rank : Key → Nat
  | .index _ => 0
  | .string _ => 1
  | .symbol _ => 2

/-- The order in which own keys are listed: by rank, and indices among themselves by
number.  Keys that neither precede each other nor are equal keep the order they came in. -/
def precedes : Key → Key → Bool
  | .index m, .index n => m ≤ n
  | a, b => a.rank ≤ b.rank

/-- The text of a key in a message, given which characters are visible. -/
def displayWith (visible : Char → Bool) : Key → String
  | .string s => Text.quoteWith visible s
  | .index n => toString n.toNat
  | .symbol s => "[" ++ s.describe ++ "]"

/-- The text of a key in a message. -/
def display (k : Key) : String := k.displayWith Text.isVisible

/-- How a key is shown inside a value. -/
def describe : Key → String
  | .string s => "String(" ++ Text.quote s ++ ")"
  | .index n => "Index(" ++ toString n.toNat ++ ")"
  | .symbol s => "Symbol(" ++ s.describe ++ ")"

end Key

end Narrowing
