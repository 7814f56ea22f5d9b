import Narrowing.Value.Intrinsic
import Narrowing.Value.Describe
/-!
# Building objects and functions

Objects are built in steps from their content: properties are put, and a parent may be
chosen in place of the intrinsic one.  Classes are built in steps too: members go to the
prototype, statics to the constructor, and the prototype inherits from the prototype of the
parent class.  The last step decides where two steps say different things.

Building a value may call for identities that no earlier value has.  `Build` is a
computation that draws on a supply of them.  Identities of functions and objects are counted
up from the limit of the intrinsic ones, and those of symbols from 16 as 64-bit words.
-/

namespace Narrowing

/-! ### Fresh identities -/

/-- The next identities to give out. -/
structure Supply where
  /-- For functions and objects. -/
  identity : Nat := Intrinsic.identityLimit
  /-- For symbols. -/
  symbol : UInt64 := 16
deriving Inhabited

/-- A computation that may give out identities. -/
abbrev Build (α : Type) : Type := StateM Supply α

namespace Build

/-- An identity for a new function or object. -/
def freshIdentity : Build Nat :=
  modifyGet fun supply => (supply.identity, { supply with identity := supply.identity + 1 })

/-- An identity for a new symbol.  This is the only access to the count of them. -/
def drawSymbol : Build UInt64 :=
  modifyGet fun supply => (supply.symbol, { supply with symbol := supply.symbol + 1 })

/-- A new symbol. -/
def freshSymbol (description : Option String) : Build Symbol := do
  return ⟨← drawSymbol, description⟩

end Build

variable {γ : Type}

/-! ### Objects -/

/-- What a new object inherits from. -/
inductive ParentChoice (γ : Type) where
  /-- The intrinsic object of its content. -/
  | intrinsic
  /-- A chosen object. -/
  | object (o : Object γ)
  /-- Nothing. -/
  | nothing

/-- An object under construction. -/
structure ObjectBuilder (γ : Type) where
  content : Content γ
  parent : ParentChoice γ := .intrinsic
  properties : Table (Value γ) := []

/-- A step in building an object. -/
inductive ObjectStep (γ : Type) where
  /-- Puts an own property. -/
  | property (key : Key) (value : Value γ)
  /-- Inherits from an object. -/
  | parent (o : Object γ)
  /-- Inherits from nothing. -/
  | noParent

namespace ObjectBuilder

/-- Puts an own property. -/
def property (b : ObjectBuilder γ) (key : Key) (value : Value γ) : ObjectBuilder γ :=
  { b with properties := Table.put key value b.properties }

/-- The builder after a step. -/
def step (b : ObjectBuilder γ) : ObjectStep γ → ObjectBuilder γ
  | .property key value => b.property key value
  | .parent o => { b with parent := .object o }
  | .noParent => { b with parent := .nothing }

/-- The builder after several steps. -/
def steps (b : ObjectBuilder γ) (history : List (ObjectStep γ)) : ObjectBuilder γ :=
  history.foldl step b

/-- The object that the finished object inherits from. -/
def finalParent (b : ObjectBuilder γ) : Option (Object γ) :=
  match b.parent with
  | .intrinsic => some b.content.intrinsic.toObject
  | .object o => some o
  | .nothing => none

/-- The finished object. -/
def build (b : ObjectBuilder γ) : Build (Object γ) := do
  let identity ← Build.freshIdentity
  return .mk identity b.content b.finalParent b.properties

/-- How a builder is shown; the parent is not. -/
def describe (b : ObjectBuilder γ) : String :=
  describeRecord "ObjectBuilder"
    [("kind", b.content.describe), ("properties", braced (describeEntries b.properties))]

end ObjectBuilder

namespace Object

/-- A builder of an ordinary object. -/
def builder : ObjectBuilder γ := { content := .ordinary }

/-- An object with the default parent and no properties. -/
def ofContent (content : Content γ) : Build (Object γ) := ObjectBuilder.build { content }

/-- An array. -/
def array (elements : List (Value γ)) : Build (Object γ) := ofContent (.array elements)

/-- A regular expression, which starts to match at its first position. -/
def regExp (source flags : String) : Build (Object γ) :=
  ({ content := .regExp source flags : ObjectBuilder γ }.property
    (.string "lastIndex") (.number .zero)).build

end Object

/-! ### Functions -/

namespace Function

/-- A function without properties of its own.  Declared functions and classes are
constructors and get a new prototype. -/
def ofKind (name : String) (kind : FunctionKind) : Build (Function γ) := do
  match kind with
  | .declared | .classConstructor =>
    let prototype ← Object.builder.build
    let identity ← Build.freshIdentity
    return .mk identity name kind 0 (some prototype) [] none
  | _ =>
    let identity ← Build.freshIdentity
    return .mk identity name kind 0 none [] none

/-- A function of the program itself. -/
def builtin (name : String) (length : UInt32) : Build (Function γ) := do
  let identity ← Build.freshIdentity
  return .mk identity name .builtin length none [] none

/-- A function that carries a guard. -/
def ofGuard (name : String) (guard : γ) : Build (Function γ) := do
  let identity ← Build.freshIdentity
  return .mk identity name .guard 1 none [] (some guard)

/-- A builder of an instance: it inherits from the prototype of a constructor. -/
def newInstance (f : Function γ) : ObjectBuilder γ :=
  match f.prototype with
  | some prototype => { content := .ordinary, parent := .object prototype }
  | none => Object.builder

end Function

/-! ### Classes -/

/-- A class under construction. -/
structure ClassBuilder (γ : Type) where
  name : String
  length : UInt32 := 0
  parent : Option (Function γ) := none
  members : Table (Value γ) := []
  statics : Table (Value γ) := []

/-- A step in building a class. -/
inductive ClassStep (γ : Type) where
  /-- Inherits from the prototype of a function, if it has one. -/
  | extends (parent : Function γ)
  /-- Declares a number of arguments. -/
  | length (n : UInt32)
  /-- Puts a new method on the prototype. -/
  | method (name : String)
  /-- Puts a property on the prototype. -/
  | member (key : Key) (value : Value γ)
  /-- Puts a property on the constructor. -/
  | static (key : Key) (value : Value γ)

namespace ClassBuilder

/-- The builder after a step. -/
def step (b : ClassBuilder γ) : ClassStep γ → Build (ClassBuilder γ)
  | .extends parent => return { b with parent := some parent }
  | .length n => return { b with length := n }
  | .method name => do
    let method ← Function.ofKind name .method
    return { b with members := Table.put (.ofString name) (.function method) b.members }
  | .member key value => return { b with members := Table.put key value b.members }
  | .static key value => return { b with statics := Table.put key value b.statics }

/-- The builder after several steps. -/
def steps (b : ClassBuilder γ) (history : List (ClassStep γ)) : Build (ClassBuilder γ) :=
  history.foldlM step b

/-- A builder of the prototype: it inherits from the prototype of the parent class. -/
def prototypeBuilder (b : ClassBuilder γ) : ObjectBuilder γ :=
  match b.parent.bind Function.prototype with
  | some prototype =>
    { content := .ordinary, parent := .object prototype, properties := b.members }
  | none => { content := .ordinary, properties := b.members }

/-- The finished class. -/
def build (b : ClassBuilder γ) : Build (Function γ) := do
  let prototype ← b.prototypeBuilder.build
  let identity ← Build.freshIdentity
  return .mk identity b.name .classConstructor b.length (some prototype) b.statics none

/-- How a builder is shown. -/
def describe (b : ClassBuilder γ) : String :=
  describeRecord "ClassBuilder" [
    ("name", Text.quote b.name),
    ("length", toString b.length.toNat),
    ("parent", match b.parent with
      | none => "None"
      | some parent => "Some(" ++ parent.describe ++ ")"),
    ("members", braced (describeEntries b.members)),
    ("statics", braced (describeEntries b.statics))]

end ClassBuilder

/-- The finished class of a name and a history of steps. -/
def Function.ofClass (name : String) (history : List (ClassStep γ)) : Build (Function γ) := do
  let b ← ClassBuilder.steps { name } history
  b.build

end Narrowing
