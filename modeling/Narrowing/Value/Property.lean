import Narrowing.Value.Intrinsic
/-!
# Properties

A value has own properties and inherits others along its chain: an object from its ancestors,
and a primitive or a function from the intrinsic object of its kind.  Some own properties are
computed, not stored: the elements and the length of an array, the characters and the length
of a text, and the name, the length and the prototype of a function.  Computed properties
hide stored ones of the same key.

Own keys are listed with indices first, in ascending order, then texts, then symbols.
-/

namespace Narrowing

variable {γ : Type}

/-- A computed property of a text: the characters by position, and their number. -/
def textProperty? (s : String) : Key → Option (Value γ)
  | .index n => s.toList[n.toNat]?.map fun c => .string c.toString
  | .string text => if text = "length" then some (.number (.ofNat s.length)) else none
  | .symbol _ => none

/-- The keys of `size` positions and of the length. -/
def sequenceKeys (size : Nat) : List Key := (List.range size).map Key.ofNat ++ [Key.length]

namespace Content

/-- A computed property of an object with this content. -/
def property? : Content γ → Key → Option (Value γ)
  | array elements, .index n => elements[n.toNat]?
  | array elements, .string "length" => some (.number (.ofNat elements.length))
  | boxedString s, key => textProperty? s key
  | _, _ => none

/-- The keys of the computed properties. -/
def keys : Content γ → List Key
  | array elements => sequenceKeys elements.length
  | boxedString s => sequenceKeys s.length
  | _ => []

end Content

/-- Keys in the order in which they are listed. -/
def sortKeys (keys : List Key) : List Key := keys.mergeSort Key.precedes

namespace Object

/-- An own property: computed, or else stored. -/
def getOwn? (o : Object γ) (key : Key) : Option (Value γ) :=
  (o.content.property? key).or (o.properties.find? key)

/-- Whether it has an own property. -/
def hasOwn (o : Object γ) (key : Key) : Bool := (o.getOwn? key).isSome

/-- The keys of the own properties; a stored property that is hidden is not listed again. -/
def ownKeys (o : Object γ) : List Key :=
  sortKeys (o.content.keys ++ o.properties.keys.filter fun key => !o.content.keys.contains key)

end Object

namespace Function

/-- An own property: the length, the name, the prototype of a constructor, or else one that
was given to it. -/
def getOwn? (f : Function γ) (key : Key) : Option (Value γ) :=
  match key with
  | .string "length" => some (.number (.ofNat f.length.toNat))
  | .string "name" => some (.string f.name)
  | .string "prototype" => (f.prototype.map Value.object).or (f.statics.find? key)
  | _ => f.statics.find? key

/-- The keys of the own properties, the computed ones first among the texts. -/
def ownKeys (f : Function γ) : List Key :=
  sortKeys ([Key.length, .string "name"] ++
    (if f.isConstructor then [.string "prototype"] else []) ++ f.statics.keys)

end Function

namespace Value

/-- The nearest object that a value inherits from. -/
def parent : Value γ → Option (Object γ)
  | undefined => none
  | null => none
  | boolean _ => some Intrinsic.boolean.toObject
  | number _ => some Intrinsic.number.toObject
  | bigint _ => some Intrinsic.bigint.toObject
  | string _ => some Intrinsic.string.toObject
  | symbol _ => some Intrinsic.symbol.toObject
  | function _ => some Intrinsic.function.toObject
  | object o => o.parent

/-- The objects that a value inherits from, nearest first. -/
def chain (v : Value γ) : List (Object γ) :=
  match v.parent with
  | none => []
  | some o => o :: o.ancestors

/-- An own property. -/
def getOwn? : Value γ → Key → Option (Value γ)
  | string s, key => textProperty? s key
  | function f, key => f.getOwn? key
  | object o, key => o.getOwn? key
  | _, _ => none

/-- Whether it has an own property. -/
def hasOwn (v : Value γ) (key : Key) : Bool := (v.getOwn? key).isSome

/-- A property: an own one, or else that of the nearest object on the chain that has one. -/
def get? (v : Value γ) (key : Key) : Option (Value γ) :=
  (v.getOwn? key).or (v.chain.findSome? fun o => o.getOwn? key)

/-- Whether it has a property, own or inherited. -/
def hasInChain (v : Value γ) (key : Key) : Bool := (v.get? key).isSome

/-- Whether a key names a property of a value; `undefined` and `null` have none. -/
def hasProperty (v : Value γ) (key : Key) : Bool :=
  !v.isNullish && (v.hasOwn key || v.hasInChain key)

/-- The keys of the own properties. -/
def ownKeys : Value γ → List Key
  | string s => sequenceKeys s.length
  | function f => f.ownKeys
  | object o => o.ownKeys
  | _ => []

end Value

end Narrowing
