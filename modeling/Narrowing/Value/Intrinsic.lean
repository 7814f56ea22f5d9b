import Narrowing.Value.Basic
/-!
# Intrinsic objects

Every kind of value inherits from an object that belongs to the program from the start.
These objects hold the methods of their kind.  The one for objects inherits from nothing,
and the others inherit from it.

Intrinsic objects and their methods have fixed identities below `Intrinsic.identityLimit`:
the object at position `n` has the identity `32 * n`, and its methods have the identities
that follow.
-/

namespace Narrowing

/-- The kinds of values that have an object to inherit from. -/
inductive Intrinsic where
  | object | function | array | boolean | number | bigint | string | symbol | date | regExp
  | map | set | weakMap | weakSet | promise
deriving DecidableEq, Inhabited

namespace Intrinsic

/-- A method of an intrinsic object: its key, its name and its number of arguments. -/
structure Method where
  key : Key
  name : String
  length : UInt32
deriving Inhabited

/-- A method under its own name. -/
def named (name : String) (length : UInt32) : Method := ⟨.string name, name, length⟩

/-- The method that iterates, under the iterator symbol. -/
def iterating (name : String) : Method := ⟨.symbol .iterator, name, 0⟩

/-- The methods of an intrinsic object, in order. -/
def methods : Intrinsic → List Method
  | object => [
      named "hasOwnProperty" 1, named "isPrototypeOf" 1, named "propertyIsEnumerable" 1,
      named "toLocaleString" 0, named "toString" 0, named "valueOf" 0]
  | function => [named "apply" 2, named "bind" 1, named "call" 1]
  | array => [
      named "concat" 1, named "every" 1, named "filter" 1, named "forEach" 1,
      named "includes" 1, named "indexOf" 1, named "join" 1, named "map" 1, named "pop" 0,
      named "push" 1, named "reduce" 1, named "slice" 2, named "some" 1, iterating "values"]
  | boolean => []
  | number => [named "toExponential" 1, named "toFixed" 1, named "toPrecision" 1]
  | bigint => []
  | string => [
      named "charAt" 1, named "endsWith" 1, named "includes" 1, named "indexOf" 1,
      named "slice" 2, named "split" 2, named "startsWith" 1, named "toLowerCase" 0,
      named "toUpperCase" 0, named "trim" 0, iterating "[Symbol.iterator]"]
  | symbol => [named "description" 0]
  | date => [named "getTime" 0, named "toISOString" 0, named "getFullYear" 0]
  | regExp => [named "exec" 1, named "test" 1]
  | map => [
      named "clear" 0, named "delete" 1, named "entries" 0, named "forEach" 1, named "get" 1,
      named "has" 1, named "keys" 0, named "set" 2, named "size" 0, named "values" 0,
      iterating "entries"]
  | set => [
      named "add" 1, named "clear" 0, named "delete" 1, named "entries" 0, named "forEach" 1,
      named "has" 1, named "size" 0, named "values" 0, iterating "values"]
  | weakMap => [named "delete" 1, named "get" 1, named "has" 1, named "set" 2]
  | weakSet => [named "add" 1, named "delete" 1, named "has" 1]
  | promise => [named "catch" 1, named "finally" 1, named "then" 2]

/-- The position of an intrinsic object among all of them. -/
def position : Intrinsic → Nat
  | object => 0 | function => 1 | array => 2 | boolean => 3 | number => 4 | bigint => 5
  | string => 6 | symbol => 7 | date => 8 | regExp => 9 | map => 10 | set => 11
  | weakMap => 12 | weakSet => 13 | promise => 14

/-- Every identity of an intrinsic object or method is below this one. -/
def identityLimit : Nat := 32 * 16

/-- The identity of an intrinsic object. -/
def identity (i : Intrinsic) : Nat := 32 * i.position

variable {γ : Type}

/-- The methods as properties, with the identities from `identity` onwards. -/
def properties (identity : Nat) : List Method → Table (Value γ)
  | [] => []
  | m :: rest =>
    (m.key, .function (.mk identity m.name .builtin m.length none [] none)) ::
      properties (identity + 1) rest

/-- The object that the other intrinsic objects inherit from. -/
def root : Object γ :=
  .mk object.identity .ordinary none (properties (object.identity + 1) object.methods)

/-- The intrinsic object of a kind. -/
def toObject : Intrinsic → Object γ
  | object => root
  | i => .mk i.identity .ordinary (some root) (properties (i.identity + 1) i.methods)

end Intrinsic

namespace Content

variable {γ : Type}

/-- The intrinsic object that an object with this content inherits from by default. -/
def intrinsic : Content γ → Intrinsic
  | ordinary => .object
  | array _ => .array
  | date _ => .date
  | regExp _ _ => .regExp
  | map _ => .map
  | set _ => .set
  | weakMap => .weakMap
  | weakSet => .weakSet
  | promise => .promise
  | boxedBoolean _ => .boolean
  | boxedNumber _ => .number
  | boxedString _ => .string

end Content

end Narrowing
