import Narrowing.Value.Basic
/-!
# How values are shown

A value is shown on one line for messages: primitives as a program would write them, functions
by kind and name, and objects by their content and their stored properties.  Identities,
parents and computed properties are not shown.
-/

namespace Narrowing

/-- Parts with a comma and a space between them. -/
def commaList (parts : List String) : String := String.intercalate ", " parts

/-- Parts in braces. -/
def braced (parts : List String) : String := "\x7b" ++ commaList parts ++ "\x7d"

/-- Parts in brackets. -/
def bracketed (parts : List String) : String := "[" ++ commaList parts ++ "]"

/-- A name followed by named fields in braces. -/
def describeRecord (name : String) (fields : List (String × String)) : String :=
  name ++ " \x7b " ++ commaList (fields.map fun f => f.1 ++ ": " ++ f.2) ++ " \x7d"

/-- A truth value. -/
def describeBool (b : Bool) : String := if b then "true" else "false"

namespace FunctionKind

/-- The name of the kind. -/
def name : FunctionKind → String
  | arrow => "Arrow"
  | declared => "Declared"
  | async => "Async"
  | generator => "Generator"
  | method => "Method"
  | classConstructor => "Class"
  | builtin => "Builtin"
  | guard => "Guard"

end FunctionKind

variable {γ : Type}

namespace Content

/-- The name of the kind of content. -/
def name : Content γ → String
  | ordinary => "Ordinary"
  | array _ => "Array"
  | date _ => "Date"
  | regExp _ _ => "RegExp"
  | map _ => "Map"
  | set _ => "Set"
  | weakMap => "WeakMap"
  | weakSet => "WeakSet"
  | promise => "Promise"
  | boxedBoolean _ => "BoxedBoolean"
  | boxedNumber _ => "BoxedNumber"
  | boxedString _ => "BoxedString"

end Content

/-- A function is shown by its name, which is not quoted. -/
def Function.describe (f : Function γ) : String :=
  match f.kind with
  | .classConstructor => "[class " ++ f.name ++ "]"
  | kind => "[Function(" ++ kind.name ++ "): " ++ f.name ++ "]"

mutual

/-- How a value is shown. -/
def Value.describe : Value γ → String
  | .undefined => "undefined"
  | .null => "null"
  | .boolean b => describeBool b
  | .number x => x.keyText
  | .bigint n => toString n ++ "n"
  | .string s => Text.quote s
  | .symbol s => s.describe
  | .function f => f.describe
  | .object o => o.describe
termination_by structural v => v

/-- How an object is shown. -/
def Object.describe : Object γ → String
  | .mk _ content _ properties =>
    describeRecord "Object"
      [("kind", content.describe), ("properties", braced (describeEntries properties))]
termination_by structural o => o

/-- How the content of an object is shown. -/
def Content.describe : Content γ → String
  | .array elements => "Array(" ++ bracketed (describeAll elements) ++ ")"
  | .date time => "Date(" ++ time.dataText ++ ")"
  | .regExp source flags =>
    describeRecord "RegExp" [("source", Text.quote source), ("flags", Text.quote flags)]
  | .map entries => "Map(" ++ bracketed (describePairs entries) ++ ")"
  | .set members => "Set(" ++ bracketed (describeAll members) ++ ")"
  | .boxedBoolean b => "BoxedBoolean(" ++ describeBool b ++ ")"
  | .boxedNumber x => "BoxedNumber(" ++ x.dataText ++ ")"
  | .boxedString s => "BoxedString(" ++ Text.quote s ++ ")"
  | .ordinary => "Ordinary"
  | .weakMap => "WeakMap"
  | .weakSet => "WeakSet"
  | .promise => "Promise"
termination_by structural c => c

/-- How each of several values is shown. -/
def describeAll : List (Value γ) → List String
  | [] => []
  | v :: rest => v.describe :: describeAll rest
termination_by structural vs => vs

/-- How each entry of a map is shown. -/
def describePairs : List (Value γ × Value γ) → List String
  | [] => []
  | (key, value) :: rest =>
    ("(" ++ key.describe ++ ", " ++ value.describe ++ ")") :: describePairs rest
termination_by structural es => es

/-- How each entry of a table is shown. -/
def describeEntries : List (Key × Value γ) → List String
  | [] => []
  | (key, value) :: rest => (key.describe ++ ": " ++ value.describe) :: describeEntries rest
termination_by structural es => es

end

end Narrowing
