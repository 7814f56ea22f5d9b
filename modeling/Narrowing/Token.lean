import Narrowing.Value.Builder
/-!
# Reading values from data

Self-describing data arrives as a tree of tokens, whatever its format: nothing, truth values,
numbers, texts, bytes, sequences and maps.  Every token but three has a value: wrapped data,
bytes and unsigned integers too wide for 64 bits are refused.  A sequence becomes an array
and a map an ordinary object, whose members are put in order, so that a repeated name
keeps its place and takes the later value.  The names of a map must be texts.
-/

namespace Narrowing

/-- A piece of self-describing data. -/
inductive Token where
  /-- Nothing at all. -/
  | unit
  /-- An absent optional part. -/
  | none
  /-- A present optional part. -/
  | some (content : Token)
  /-- Data wrapped in a type of its own. -/
  | wrapped (content : Token)
  | boolean (b : Bool)
  /-- An integer of at most 64 bits. -/
  | integer (n : Int)
  /-- A signed integer of up to 128 bits. -/
  | wideInteger (n : Int)
  /-- An unsigned integer of up to 128 bits. -/
  | wideNatural (n : Nat)
  | number (x : Double)
  | text (s : String)
  | bytes (data : ByteArray)
  | sequence (items : List Token)
  | map (members : List (Token × Token))

/-- Why data cannot be read. -/
inductive TokenError where
  /-- The token is none that a value is made of. -/
  | notAValue (token : Token)
  /-- The token is none that a name is made of. -/
  | notAName (token : Token)
  /-- The bytes of a name are no text. -/
  | notText

namespace Token

/-- What a token is, for an error message. -/
def describe : Token → String
  | unit => "unit value"
  | none => "Option value"
  | some _ => "Option value"
  | wrapped _ => "newtype struct"
  | boolean b => "boolean \x60" ++ describeBool b ++ "\x60"
  | integer n => "integer \x60" ++ toString n ++ "\x60"
  | wideInteger n => "integer \x60" ++ toString n ++ "\x60 as i128"
  | wideNatural n => "integer \x60" ++ toString n ++ "\x60 as u128"
  | number x => "floating point \x60" ++ x.fullText ++ "\x60"
  | text s => "string " ++ Text.quote s
  | bytes _ => "byte array"
  | sequence _ => "sequence"
  | map _ => "map"

/-- The text of a name. -/
def name? : Token → Except TokenError String
  | text s => .ok s
  | bytes data =>
    match String.fromUTF8? data with
    | Option.some s => .ok s
    | Option.none => .error .notText
  | token => .error (.notAName token)

end Token

/-- The message of an error. -/
def TokenError.message : TokenError → String
  | notAValue token => "invalid type: " ++ token.describe ++ ", expected any value"
  | notAName token => "invalid type: " ++ token.describe ++ ", expected a string"
  | notText => "invalid value: byte array, expected a string"

/-- A computation that may give out identities or find data that cannot be read. -/
abbrev ReadBuild (α : Type) : Type := ExceptT TokenError Build α

variable {γ : Type}

mutual

/-- The value of a token. -/
def Token.toValue : Token → ReadBuild (Value γ)
  | .unit => return .null
  | .none => return .null
  | .some content => content.toValue
  | .wrapped content => throw (.notAValue (.wrapped content))
  | .boolean b => return .boolean b
  | .integer n => return .number (.ofInt n)
  | .wideInteger n => return .bigint n
  | .wideNatural n => throw (.notAValue (.wideNatural n))
  | .number x => return .number x
  | .text s => return .string s
  | .bytes data => throw (.notAValue (.bytes data))
  | .sequence items => do
    let elements ← itemValues items
    return .object (← liftM (Object.array elements : Build (Object γ)))
  | .map members => do
    let builder ← putMembers members Object.builder
    return .object (← liftM builder.build)
termination_by structural token => token

/-- The values of several tokens in order. -/
def itemValues : List Token → ReadBuild (List (Value γ))
  | [] => return []
  | item :: rest => do
    let value ← item.toValue
    return value :: (← itemValues rest)
termination_by structural items => items

/-- Puts the members of a map in order. -/
def putMembers : List (Token × Token) → ObjectBuilder γ → ReadBuild (ObjectBuilder γ)
  | [], builder => return builder
  | (name, content) :: rest, builder => do
    let key ← liftExcept name.name?
    let value ← content.toValue
    putMembers rest (builder.property (.ofString key) value)
termination_by structural members => members

end

end Narrowing
