import Narrowing.Value.Builder
/-!
# Guards

A guard decides whether a value is of a kind and, if it is, gives a view of the value as
what it is.  This file holds the syntax of guards: classifiers of single values, guards of
properties, of shapes, of collections and of equality, and the combinators that join guards.

A predicate stands for a test that the caller supplies; guards name it by a number.  Guards
are trees, and the values in them may be functions that carry guards of their own.
-/

namespace Narrowing

/-- The guards of a single value that need no argument, in the order in which values are
classified. -/
inductive Classifier where
  | isUndefined | isNull | isDefined | isBoolean | isNumber | isBigInt | isString | isSymbol
  | isFunction | isCallable | isAny | isConstructor | isObject | isRecord | isArray | isDate
  | isRegExp | isMap | isSet | isWeakMap | isWeakSet | isPromise | isIterable
  | isAsyncIterable | isArrayLike | isKey | isNumberString | isHexString | isBase64String
deriving DecidableEq, Inhabited

/-- A guard. -/
inductive Guard where
  /-- A classifier. -/
  | classifier (c : Classifier)
  /-- The value has a property. -/
  | has (key : Key)
  /-- The value has a property, and the guard accepts it. -/
  | hasWith (key : Key) (guard : Guard)
  /-- The value names a property of the container. -/
  | isKeyOf (container : Value Guard)
  /-- An object has every field of the shape, and each is accepted. -/
  | isLike (shape : List (Key × Guard))
  /-- An object's fields are accepted, where an absent one counts as undefined. -/
  | isSimilarTo (shape : List (Key × Guard))
  /-- An array has accepted elements only. -/
  | isArrayOf (element : Guard)
  /-- An ordinary object has accepted properties only. -/
  | isRecordOf (field : Guard)
  /-- An object inherits from the prototype of the constructor. -/
  | isInstanceOf (constructor : Function Guard)
  /-- The value is one of these. -/
  | isOneOf (members : List (Value Guard))
  /-- The value is this one. -/
  | isEqualTo (expected : Value Guard)
  /-- Some guard of a tuple accepts; the view says which. -/
  | anyOf (members : List Guard)
  /-- Every guard of a tuple accepts. -/
  | allOf (members : List Guard)
  /-- Some guard of a list accepts. -/
  | anyOfList (members : List Guard)
  /-- Every guard of a list accepts. -/
  | allOfList (members : List Guard)
  /-- One of two guards accepts; the view does not say which.  This is what a caller makes of a
  union of the two, erased so that its sides have one type, by merging the sides of its views. -/
  | merged (first second : Guard)
  /-- The guard rejects. -/
  | not (guard : Guard)
  /-- The guard accepts; its view is forgotten. -/
  | erased (guard : Guard)
  /-- The guard accepts, and its evaluation is recorded. -/
  | traced (name : String) (guard : Guard)
  /-- A test supplied by the caller accepts. -/
  | predicate (index : Nat)

instance : Inhabited Guard := ⟨.classifier .isAny⟩

/-- A function that carries a guard, with its view forgotten. -/
def Guard.toFunction (name : String) (guard : Guard) : Build (Function Guard) :=
  Function.ofGuard name (.erased guard)

namespace Classifier

/-- All classifiers in order. -/
def all : List Classifier := [
  isUndefined, isNull, isDefined, isBoolean, isNumber, isBigInt, isString, isSymbol,
  isFunction, isCallable, isAny, isConstructor, isObject, isRecord, isArray, isDate,
  isRegExp, isMap, isSet, isWeakMap, isWeakSet, isPromise, isIterable,
  isAsyncIterable, isArrayLike, isKey, isNumberString, isHexString, isBase64String]

end Classifier

end Narrowing
