import Narrowing.Token
/-!
# Data as a format delivers it

A format delivers every scalar in a form of its own: an integer as one of ten kinds, a number
in single or in double precision, a text as a whole or as a single character.  A reader does not
tell all of these apart: integers of at most 64 bits are one form, precisions are another, and a
character is a text.  `Delivery.token` is what the reader sees.  Only integers of 128 bits
stay apart, and there the signed from the unsigned ones.
-/

namespace Narrowing

/-- The width of an integer. -/
inductive Width where
  | w8 | w16 | w32 | w64 | w128
deriving DecidableEq

/-- The number of bits. -/
def Width.bits : Width → Nat
  | w8 => 8
  | w16 => 16
  | w32 => 32
  | w64 => 64
  | w128 => 128

/-- A scalar in the form in which it is delivered. -/
inductive Scalar where
  | boolean (b : Bool)
  | signed (width : Width) (n : BitVec width.bits)
  | unsigned (width : Width) (n : BitVec width.bits)
  /-- A number in single precision, by its bits. -/
  | single (bits : UInt32)
  | double (x : Double)
  | character (c : Char)
  | text (s : String)
  | bytes (data : ByteArray)

/-- The token of a scalar. -/
def Scalar.token : Scalar → Token
  | boolean b => .boolean b
  | signed .w128 n => .wideInteger n.toInt
  | signed _ n => .integer n.toInt
  | unsigned .w128 n => .wideNatural n.toNat
  | unsigned _ n => .integer n.toNat
  | single bits => .number (.ofSingleBits bits)
  | double x => .number x
  | character c => .text (String.singleton c)
  | text s => .text s
  | bytes data => .bytes data

/-- A piece of data in the form in which it is delivered. -/
inductive Delivery where
  /-- Nothing at all. -/
  | unit
  /-- An absent optional part. -/
  | none
  /-- A present optional part. -/
  | some (content : Delivery)
  /-- Data wrapped in a type of its own. -/
  | wrapped (content : Delivery)
  | scalar (s : Scalar)
  | sequence (items : List Delivery)
  | map (members : List (Delivery × Delivery))

mutual

/-- The token of a piece of data. -/
def Delivery.token : Delivery → Token
  | .unit => .unit
  | .none => .none
  | .some content => .some content.token
  | .wrapped content => .wrapped content.token
  | .scalar s => s.token
  | .sequence items => .sequence (itemTokens items)
  | .map members => .map (memberTokens members)
termination_by structural delivery => delivery

/-- The tokens of several pieces of data. -/
def itemTokens : List Delivery → List Token
  | [] => []
  | item :: rest => item.token :: itemTokens rest
termination_by structural items => items

/-- The tokens of the members of a map. -/
def memberTokens : List (Delivery × Delivery) → List (Token × Token)
  | [] => []
  | (name, content) :: rest => (name.token, content.token) :: memberTokens rest
termination_by structural members => members

end

end Narrowing
