import Narrowing.Guard.View
import Narrowing.Value.Property
import Narrowing.Text.Basic
/-!
# Classifying values

What each classifier accepts and which view it gives.  Two rules concern numbers: NaN is no
number and not defined, alone or boxed, and a date without a time is no date and not defined.
-/

namespace Narrowing

/-- Whether a value has a property that a test accepts. -/
def Value.hasAccepted (v : Value Guard) (key : Key) (test : Value Guard → Bool) : Bool :=
  !v.isNullish && (v.get? key).any test

/-- Whether a value is defined: neither `undefined` nor `null`, not NaN, not a boxed NaN and
not a date without a time. -/
def Value.isDefined (v : Value Guard) : Bool :=
  !v.isNullish &&
    match v.number?, v with
    | some x, _ => !x.isNaN
    | none, .object (.mk _ (.date time) _ _) => !time.isNaN
    | none, _ => true

namespace Classifier

/-- The object itself, if its content passes a test. -/
def objectWith (v : Value Guard) (test : Content Guard → Bool) : Option View :=
  v.object?.bind fun o => View.acceptedObject o (test o.content)

/-- The text that a value is or boxes, if its characters pass a test. -/
def textWith (v : Value Guard) (test : List Char → Bool) : Option View :=
  v.string?.bind fun s => if test s.toList then some (.string s) else none

/-- The key of the method that receives the result of a promise. -/
def thenKey : Key := .string "then"

/-- The view that a classifier gives of a value that it accepts. -/
def narrow (c : Classifier) (v : Value Guard) : Option View :=
  match c with
  | isUndefined => match v with
    | .undefined => some .unit
    | _ => none
  | isNull => match v with
    | .null => some .unit
    | _ => none
  | isDefined => View.accepted v v.isDefined
  | isBoolean => match v with
    | .boolean b => some (.boolean b)
    | _ => none
  | isNumber => v.number?.bind fun x => if x.isNaN then none else some (.number x)
  | isBigInt => match v with
    | .bigint n => some (.bigint n)
    | _ => none
  | isString => v.string?.map View.string
  | isSymbol => v.symbol?.map View.symbol
  | isFunction => v.function?.map View.function
  | isCallable => v.function?.map View.function
  | isAny => none
  | isConstructor => v.function?.bind fun f =>
    if f.isConstructor then some (.function f) else none
  | isObject => v.object?.map View.object
  | isRecord => objectWith v fun
    | .ordinary => true
    | _ => false
  | isArray => v.object?.bind fun o => o.elements?.map View.elements
  | isDate => match v with
    | .object (.mk _ (.date time) _ _) => if time.isNaN then none else some (.number time)
    | _ => none
  | isRegExp => objectWith v fun
    | .regExp _ _ => true
    | _ => false
  | isMap => objectWith v fun
    | .map _ => true
    | _ => false
  | isSet => objectWith v fun
    | .set _ => true
    | _ => false
  | isWeakMap => objectWith v fun
    | .weakMap => true
    | _ => false
  | isWeakSet => objectWith v fun
    | .weakSet => true
    | _ => false
  | isPromise => View.accepted v (v.hasAccepted thenKey fun field => field.function?.isSome)
  | isIterable =>
    View.accepted v (v.hasAccepted (.symbol .iterator) fun field => field.function?.isSome)
  | isAsyncIterable =>
    View.accepted v (v.hasAccepted (.symbol .asyncIterator) fun field => field.function?.isSome)
  | isArrayLike =>
    View.accepted v (v.hasAccepted Key.length fun field => field.number?.any fun x => !x.isNaN)
  | isKey => v.key?.map View.key
  | isNumberString => textWith v Text.isNumber
  | isHexString => textWith v Text.isHex
  | isBase64String => textWith v Text.isBase64

/-- Whether a classifier accepts a value. -/
def check (c : Classifier) (v : Value Guard) : Bool := (c.narrow v).isSome

end Classifier

/-- The classifiers that accept a value, in order. -/
def Value.classifiers (v : Value Guard) : List Classifier :=
  Classifier.all.filter fun c => c.check v

end Narrowing
