import Narrowing.Table
/-!
# Values

The values of a dynamically typed program.  Symbols, functions and objects have an identity
and are equal only to themselves; every other value is equal to the values that look the
same.  Nothing changes after it is built, so an object is a tree that holds its parent
object and its properties, and its identity is a number in the tree.

A function may carry a guard, which is what shape descriptions are made of.  What a guard is
does not matter here, so the type of guards is the parameter `γ` throughout.
-/

namespace Narrowing

/-- How a function was made. -/
inductive FunctionKind where
  | arrow | declared | async | generator | method | classConstructor | builtin | guard
deriving DecidableEq, Inhabited

mutual

/-- A value. -/
inductive Value (γ : Type) where
  | undefined
  | null
  | boolean (b : Bool)
  | number (x : Double)
  | bigint (n : Int)
  | string (s : String)
  | symbol (s : Symbol)
  | function (f : Function γ)
  | object (o : Object γ)

/-- An object: its identity, what it holds besides properties, the object it inherits from,
and its properties. -/
inductive Object (γ : Type) where
  | mk (identity : Nat) (content : Content γ) (parent : Option (Object γ))
      (properties : List (Key × Value γ))

/-- What an object holds besides its properties.  An ordinary object holds nothing, and a
boxed value holds a primitive. -/
inductive Content (γ : Type) where
  | ordinary
  | array (elements : List (Value γ))
  | date (time : Double)
  | regExp (source flags : String)
  | map (entries : List (Value γ × Value γ))
  | set (members : List (Value γ))
  | weakMap
  | weakSet
  | promise
  | boxedBoolean (b : Bool)
  | boxedNumber (x : Double)
  | boxedString (s : String)

/-- A function.  A constructor has a prototype, the object its instances inherit from. -/
inductive Function (γ : Type) where
  | mk (identity : Nat) (name : String) (kind : FunctionKind) (length : UInt32)
      (prototype : Option (Object γ)) (statics : List (Key × Value γ)) (guard : Option γ)

end

variable {γ : Type}

instance : Inhabited (Value γ) := ⟨.undefined⟩

namespace Object

/-- What tells objects apart. -/
def identity : Object γ → Nat
  | mk identity _ _ _ => identity

/-- What the object holds besides properties. -/
def content : Object γ → Content γ
  | mk _ content _ _ => content

/-- The object it inherits from. -/
def parent : Object γ → Option (Object γ)
  | mk _ _ parent _ => parent

/-- The properties in the order in which they were first put. -/
def properties : Object γ → Table (Value γ)
  | mk _ _ _ properties => properties

/-- The elements of an array. -/
def elements? (o : Object γ) : Option (List (Value γ)) :=
  match o.content with
  | .array elements => some elements
  | _ => none

/-- Whether two objects are the same one. -/
def same (a b : Object γ) : Bool := a.identity == b.identity

/-- The objects it inherits from, nearest first. -/
def ancestors : Object γ → List (Object γ)
  | mk _ _ none _ => []
  | mk _ _ (some parent) _ => parent :: parent.ancestors

/-- Whether it inherits from an object, at any distance. -/
def inheritsFrom (o ancestor : Object γ) : Bool := o.ancestors.any fun a => a.same ancestor

end Object

namespace Function

/-- What tells functions apart. -/
def identity : Function γ → Nat
  | mk identity .. => identity

/-- Its name. -/
def name : Function γ → String
  | mk _ name .. => name

/-- How it was made. -/
def kind : Function γ → FunctionKind
  | mk _ _ kind .. => kind

/-- How many arguments it declares. -/
def length : Function γ → UInt32
  | mk _ _ _ length .. => length

/-- The object its instances inherit from, if it is a constructor. -/
def prototype : Function γ → Option (Object γ)
  | mk _ _ _ _ prototype .. => prototype

/-- The properties it was given. -/
def statics : Function γ → Table (Value γ)
  | mk _ _ _ _ _ statics _ => statics

/-- The guard it carries. -/
def guard : Function γ → Option γ
  | mk _ _ _ _ _ _ guard => guard

/-- Whether it makes instances. -/
def isConstructor (f : Function γ) : Bool := f.prototype.isSome

/-- Whether two functions are the same one. -/
def same (f g : Function γ) : Bool := f.identity == g.identity

end Function

namespace Value

/-- The name of the type of a value, as a program sees it. -/
def typeOf : Value γ → String
  | undefined => "undefined"
  | null => "object"
  | boolean _ => "boolean"
  | number _ => "number"
  | bigint _ => "bigint"
  | string _ => "string"
  | symbol _ => "symbol"
  | function _ => "function"
  | object _ => "object"

/-- Whether this is `undefined` or `null`. -/
def isNullish : Value γ → Bool
  | undefined => true
  | null => true
  | _ => false

/-- The object, if it is one. -/
def object? : Value γ → Option (Object γ)
  | object o => some o
  | _ => none

/-- The function, if it is one. -/
def function? : Value γ → Option (Function γ)
  | function f => some f
  | _ => none

/-- The symbol, if it is one. -/
def symbol? : Value γ → Option Symbol
  | symbol s => some s
  | _ => none

/-- The number that it is or that it boxes. -/
def number? : Value γ → Option Double
  | number x => some x
  | object (.mk _ (.boxedNumber x) _ _) => some x
  | _ => none

/-- The text that it is or that it boxes. -/
def string? : Value γ → Option String
  | string s => some s
  | object (.mk _ (.boxedString s) _ _) => some s
  | _ => none

/-- Strict equality: by identity for symbols, functions and objects, numerically for numbers,
so that NaN differs from itself. -/
def equal : Value γ → Value γ → Bool
  | undefined, undefined => true
  | null, null => true
  | boolean a, boolean b => a == b
  | number x, number y => x.equal y
  | bigint m, bigint n => m == n
  | string s, string t => s == t
  | symbol s, symbol t => s.same t
  | function f, function g => f.same g
  | object a, object b => a.same b
  | _, _ => false

/-- Equality for membership: strict equality, except that NaN equals NaN. -/
def sameValueZero : Value γ → Value γ → Bool
  | number .nan, number .nan => true
  | v, w => v.equal w

/-- The key that a value names: a symbol itself, or the text or number that it is or boxes.
NaN names none. -/
def key? (v : Value γ) : Option Key :=
  match v.symbol?, v.string?, v.number? with
  | some s, _, _ => some (.symbol s)
  | none, some s, _ => some (.ofString s)
  | none, none, some x => if x.isNaN then none else some (.ofDouble x)
  | none, none, none => none

end Value

end Narrowing
