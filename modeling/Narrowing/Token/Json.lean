import Narrowing.Token
/-!
# JSON text

The program takes tokens from readers that others supply, and reads no text itself.  This is
such a reader, by the documented rules of JSON and of the limits that a reader may set.  No
value is made here: what becomes of the tokens is said in `Token.toValue`, of this reader's as
of any other's.

A JSON document is read in two steps.  `Lexeme.ofChars?` cuts the text into punctuation and
scalars, and `Reader` assembles the lexemes one after the other, keeping the arrays and
objects that are still open on a stack.  What reads from the front of a text gives what it
read and the characters that are left.  Members keep their order and repeated names are
kept.

A number without fraction and exponent that fits in 64 bits is an integer, except `-0`; any
other number is the nearest double, and it is an error if there is no finite one.  Of very
long numbers only the first 768 digits are read exactly.  At most 127 arrays and objects may
be open at once.
-/

namespace Narrowing.Json

/-! ### Lexemes -/

/-- Punctuation or a scalar. -/
inductive Lexeme where
  | openArray | closeArray | openObject | closeObject | comma | colon
  | text (s : String)
  | scalar (token : Token)

/-- The characters between the lexemes. -/
def isSpace (c : Char) : Bool := c == ' ' || c == '\t' || c == '\n' || c == '\r'

/-- The value of a hexadecimal digit. -/
def hexDigit? (c : Char) : Option Nat :=
  if c.isDigit then some (c.toNat - '0'.toNat)
  else if 'a' ≤ c ∧ c ≤ 'f' then some (c.toNat - 'a'.toNat + 10)
  else if 'A' ≤ c ∧ c ≤ 'F' then some (c.toNat - 'A'.toNat + 10)
  else none

/-- The value of four hexadecimal digits. -/
def hexUnit? (a b c d : Char) : Option Nat :=
  [a, b, c, d].foldlM (fun n digit => (hexDigit? digit).map (16 * n + ·)) 0

/-- The character of an escape of one letter. -/
def shortEscape? : Char → Option Char
  | '"' => some '"'
  | '\\' => some '\\'
  | '/' => some '/'
  | 'b' => some '\x08'
  | 'f' => some '\x0c'
  | 'n' => some '\n'
  | 'r' => some '\r'
  | 't' => some '\t'
  | _ => none

/-- The character of a unit, which may be half of a pair with the unit that follows. -/
def unitChar? (unit : Nat) (rest : List Char) : Option (Char × List Char) :=
  if unit < 0xd800 ∨ 0xe000 ≤ unit then
    some (Char.ofNat unit, rest)
  else if unit < 0xdc00 then
    match rest with
    | '\\' :: 'u' :: a :: b :: c :: d :: rest => do
      let low ← hexUnit? a b c d
      if 0xdc00 ≤ low ∧ low < 0xe000 then
        some (Char.ofNat (0x10000 + (unit - 0xd800) * 0x400 + (low - 0xdc00)), rest)
      else
        none
    | _ => none
  else
    none

/-- The text up to the closing quote; `seen` holds its characters so far, last first. -/
def scanText (cs : List Char) (seen : List Char) : Option (String × List Char) :=
  match cs with
  | '"' :: rest => some (String.ofList seen.reverse, rest)
  | '\\' :: 'u' :: a :: b :: c :: d :: rest => do
    let unit ← hexUnit? a b c d
    let (char, left) ← unitChar? unit rest
    if _h : left.length ≤ rest.length then scanText left (char :: seen) else none
  | '\\' :: letter :: rest =>
    match shortEscape? letter with
    | some char => scanText rest (char :: seen)
    | none => none
  | char :: rest => if char.toNat < 0x20 then none else scanText rest (char :: seen)
  | [] => none
termination_by cs.length
decreasing_by all_goals simp_all; try omega

/-- Digits from the front, at least one. -/
def scanDigits (cs : List Char) : Option (List Char × List Char) :=
  let digits := cs.takeWhile Char.isDigit
  if digits.isEmpty then none else some (digits, cs.dropWhile Char.isDigit)

/-- The digits of the whole part: a lone zero, or digits that do not start with one. -/
def scanWhole (cs : List Char) : Option (List Char × List Char) := do
  let (digits, rest) ← scanDigits cs
  if digits.head? = some '0' ∧ 1 < digits.length then none else some (digits, rest)

/-- The digits of an optional fraction. -/
def scanFraction : List Char → Option (Option (List Char) × List Char)
  | '.' :: cs => do
    let (digits, rest) ← scanDigits cs
    return (some digits, rest)
  | cs => some (none, cs)

/-- An optional exponent. -/
def scanExponent : List Char → Option (Option Int × List Char)
  | [] => some (none, [])
  | c :: cs =>
    if c = 'e' ∨ c = 'E' then do
      let (negative, cs) := match cs with
        | '-' :: rest => (true, rest)
        | '+' :: rest => (false, rest)
        | cs => (false, cs)
      let (digits, rest) ← scanDigits cs
      let exponent : Int := Nat.ofDigitChars 10 digits 0
      return (some (if negative then -exponent else exponent), rest)
    else
      some (none, c :: cs)

/-- How many digits of a number are read, leading zeros apart. -/
def digitLimit : Nat := 768

/-- The double nearest to digits times a power of ten.  Digits beyond the limit count as a
small positive amount, so they decide a tie between two doubles upwards even when all of them
are zero. -/
def nearestDouble (negative : Bool) (digits : List Char) (exponent : Int) : Double :=
  let digits := digits.dropWhile (· == '0')
  let kept := Nat.ofDigitChars 10 (digits.take digitLimit) 0
  let excess := digits.length - digitLimit
  if excess = 0 then Double.ofDecimal negative kept exponent
  else Double.ofDecimal negative (10 * kept + 1) (exponent + excess - 1)

/-- The digits of a fraction without the zeros at its end. -/
def trimFraction (digits : List Char) : List Char :=
  (digits.reverse.dropWhile (· == '0')).reverse

/-- The token of an integer: as it is if it fits in 64 bits, and else the nearest double.
Negative zero is a double. -/
def integerToken? (negative : Bool) (n : Nat) : Option Token :=
  if negative ∧ n = 0 then
    some (.number (.finite true .zero))
  else if negative ∧ n ≤ Nat.pow 2 63 then
    some (.integer (-n))
  else if !negative ∧ n < Nat.pow 2 64 then
    some (.integer n)
  else
    finite? (Double.ofDecimal negative n 0)
where
  /-- The token of a finite double. -/
  finite? : Double → Option Token
    | .finite negative m => some (.number (.finite negative m))
    | _ => none

/-- A number from the front. -/
def scanNumber (cs : List Char) : Option (Token × List Char) := do
  let (negative, cs) := match cs with
    | '-' :: rest => (true, rest)
    | cs => (false, cs)
  let (whole, cs) ← scanWhole cs
  let (fraction, cs) ← scanFraction cs
  let (exponent, cs) ← scanExponent cs
  match fraction, exponent with
  | none, none => return (← integerToken? negative (Nat.ofDigitChars 10 whole 0), cs)
  | _, _ =>
    let places := trimFraction (fraction.getD [])
    let x := nearestDouble negative (whole ++ places) (exponent.getD 0 - places.length)
    return (← integerToken?.finite? x, cs)

/-- A lexeme from the front of a text that does not start with space. -/
def Lexeme.scan : List Char → Option (Lexeme × List Char)
  | '[' :: rest => some (.openArray, rest)
  | ']' :: rest => some (.closeArray, rest)
  | '\x7b' :: rest => some (.openObject, rest)
  | '\x7d' :: rest => some (.closeObject, rest)
  | ',' :: rest => some (.comma, rest)
  | ':' :: rest => some (.colon, rest)
  | '"' :: rest => (scanText rest []).map fun (s, left) => (.text s, left)
  | 'n' :: 'u' :: 'l' :: 'l' :: rest => some (.scalar .unit, rest)
  | 't' :: 'r' :: 'u' :: 'e' :: rest => some (.scalar (.boolean true), rest)
  | 'f' :: 'a' :: 'l' :: 's' :: 'e' :: rest => some (.scalar (.boolean false), rest)
  | cs => (scanNumber cs).map fun (token, left) => (.scalar token, left)

/-- The lexemes of a text. -/
def Lexeme.ofChars? (cs : List Char) : Option (List Lexeme) :=
  match cs with
  | [] => some []
  | c :: rest =>
    if isSpace c then
      ofChars? rest
    else
      match scan (c :: rest) with
      | some (lexeme, left) =>
        if _h : left.length ≤ rest.length then
          (ofChars? left).map (lexeme :: ·)
        else
          none
      | none => none
termination_by cs.length
decreasing_by all_goals simp_all; try omega

/-! ### Assembling -/

/-- How many arrays and objects may be open at once. -/
def depthLimit : Nat := 127

/-- An array or object that is still open, with its complete items, last first. -/
inductive Frame where
  | array (items : List Token)
  | object (members : List (Token × Token))
  /-- An object whose next member has its name but not its value. -/
  | member (members : List (Token × Token)) (name : String)

/-- What may come next. -/
inductive Expected where
  /-- A value. -/
  | value
  /-- A value, or the end of the array that was just opened. -/
  | valueOrEnd
  /-- The name of a member. -/
  | name
  /-- The name of a member, or the end of the object that was just opened. -/
  | nameOrEnd
  /-- The colon after a name. -/
  | colon
  /-- A comma, or the end of the innermost array or object. -/
  | commaOrEnd
  /-- Nothing: the document is complete. -/
  | nothing
deriving DecidableEq

/-- The open arrays and objects, innermost first, the complete document if there is one, and
what may come next. -/
structure Reader where
  frames : List Frame := []
  document : Option Token := none
  expected : Expected := .value

namespace Reader

/-- The reader after a complete value. -/
def complete (frames : List Frame) (token : Token) : Option Reader :=
  match frames with
  | [] => some ⟨[], some token, .nothing⟩
  | .array items :: rest => some ⟨.array (token :: items) :: rest, none, .commaOrEnd⟩
  | .member members name :: rest =>
    some ⟨.object ((.text name, token) :: members) :: rest, none, .commaOrEnd⟩
  | .object _ :: _ => none

/-- The reader after an opening bracket. -/
def openFrame (r : Reader) (frame : Frame) (expected : Expected) : Option Reader :=
  if r.frames.length < depthLimit then some ⟨frame :: r.frames, none, expected⟩ else none

/-- The reader after a lexeme; `none` if the lexeme may not come here. -/
def step (r : Reader) (lexeme : Lexeme) : Option Reader :=
  match r.expected, lexeme, r.frames with
  | .value, .scalar token, frames => complete frames token
  | .valueOrEnd, .scalar token, frames => complete frames token
  | .value, .text s, frames => complete frames (.text s)
  | .valueOrEnd, .text s, frames => complete frames (.text s)
  | .value, .openArray, _ => r.openFrame (.array []) .valueOrEnd
  | .valueOrEnd, .openArray, _ => r.openFrame (.array []) .valueOrEnd
  | .value, .openObject, _ => r.openFrame (.object []) .nameOrEnd
  | .valueOrEnd, .openObject, _ => r.openFrame (.object []) .nameOrEnd
  | .valueOrEnd, .closeArray, .array items :: rest => complete rest (.sequence items.reverse)
  | .commaOrEnd, .closeArray, .array items :: rest => complete rest (.sequence items.reverse)
  | .commaOrEnd, .comma, .array items :: rest => some ⟨.array items :: rest, none, .value⟩
  | .name, .text s, .object members :: rest => some ⟨.member members s :: rest, none, .colon⟩
  | .nameOrEnd, .text s, .object members :: rest =>
    some ⟨.member members s :: rest, none, .colon⟩
  | .colon, .colon, frames => some ⟨frames, none, .value⟩
  | .nameOrEnd, .closeObject, .object members :: rest => complete rest (.map members.reverse)
  | .commaOrEnd, .closeObject, .object members :: rest => complete rest (.map members.reverse)
  | .commaOrEnd, .comma, .object members :: rest => some ⟨.object members :: rest, none, .name⟩
  | _, _, _ => none

end Reader

/-- The token of a text that is one JSON document. -/
def ofString? (s : String) : Option Token := do
  let lexemes ← Lexeme.ofChars? s.toList
  let reader ← lexemes.foldlM Reader.step {}
  reader.document

end Narrowing.Json
