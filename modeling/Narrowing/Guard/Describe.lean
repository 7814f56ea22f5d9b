import Narrowing.Guard.Logged
import Narrowing.Guard.Basic
/-!
# How guards are shown

A guard is shown by its name and its arguments.  Predicates and text formats have no written
form of their own, and a guard whose view is forgotten shows nothing else.
-/

namespace Narrowing

/-- How a guard without a written form is shown. -/
def unnamedText : String := "<fn>"

namespace Classifier

/-- The name of a classifier as it is asked for. -/
def name : Classifier → String
  | isUndefined => "is_undefined"
  | isNull => "is_null"
  | isDefined => "is_defined"
  | isBoolean => "is_boolean"
  | isNumber => "is_number"
  | isBigInt => "is_bigint"
  | isString => "is_string"
  | isSymbol => "is_symbol"
  | isFunction => "is_function"
  | isCallable => "is_callable"
  | isAny => "is_any"
  | isConstructor => "is_constructor"
  | isObject => "is_object"
  | isRecord => "is_record"
  | isArray => "is_array"
  | isDate => "is_date"
  | isRegExp => "is_reg_exp"
  | isMap => "is_map"
  | isSet => "is_set"
  | isWeakMap => "is_weak_map"
  | isWeakSet => "is_weak_set"
  | isPromise => "is_promise"
  | isIterable => "is_iterable"
  | isAsyncIterable => "is_async_iterable"
  | isArrayLike => "is_array_like"
  | isKey => "is_key"
  | isNumberString => "is_number_string"
  | isHexString => "is_hex_string"
  | isBase64String => "is_base64_string"

/-- The classifier of a name. -/
def ofName? (name : String) : Option Classifier := all.find? fun c => c.name == name

/-- A guard of a property, shown with its key and the guard of its value. -/
def describeField (key : Key) (guard : String) : String :=
  describeRecord "HasWith" [("key", key.describe), ("guard", guard)]

/-- How a classifier is shown.  Those that look for a method or a field show which. -/
def describe : Classifier → String
  | isUndefined => "IsUndefined"
  | isNull => "IsNull"
  | isDefined => "IsDefined"
  | isBoolean => "IsBoolean"
  | isNumber => "IsNumber"
  | isBigInt => "IsBigInt"
  | isString => "IsString"
  | isSymbol => "IsSymbol"
  | isFunction => "IsFunction"
  | isCallable => "IsFunction"
  | isAny => "IsAny"
  | isConstructor => "IsConstructor"
  | isObject => "IsObject"
  | isRecord => "IsRecord"
  | isArray => "IsArray"
  | isDate => "IsDate"
  | isRegExp => "IsRegExp"
  | isMap => "IsMap"
  | isSet => "IsSet"
  | isWeakMap => "IsWeakMap"
  | isWeakSet => "IsWeakSet"
  | isPromise => "IsPromise(" ++ describeField (.string "then") "IsFunction" ++ ")"
  | isIterable => "IsIterable(" ++ describeField (.symbol .iterator) "IsFunction" ++ ")"
  | isAsyncIterable =>
    "IsAsyncIterable(" ++ describeField (.symbol .asyncIterator) "IsFunction" ++ ")"
  | isArrayLike => "IsArrayLike(" ++ describeField Key.length "IsNumber" ++ ")"
  | isKey => "IsKey"
  | isNumberString => unnamedText
  | isHexString => unnamedText
  | isBase64String => unnamedText

end Classifier

/-- A shape, given how its fields are shown. -/
def describeShape (fields : List String) : String :=
  describeRecord "Shape" [("fields", braced fields)]

namespace Guard

mutual

/-- How a guard is shown. -/
def describe : Guard → String
  | classifier c => c.describe
  | has key => describeRecord "Has" [("key", key.describe)]
  | hasWith key guard => Classifier.describeField key guard.describe
  | isKeyOf container => describeRecord "IsKeyOf" [("container", container.describe)]
  | isLike shape => describeRecord "IsLike" [("shape", describeShape (describeFields shape))]
  | isSimilarTo shape =>
    describeRecord "IsSimilarTo" [("shape", describeShape (describeFields shape))]
  | isArrayOf element => describeRecord "IsArrayOf" [("element", element.describe)]
  | isRecordOf field => describeRecord "IsRecordOf" [("value", field.describe)]
  | isInstanceOf constructor =>
    describeRecord "IsInstanceOf" [("constructor", constructor.describe)]
  | isOneOf members => describeRecord "IsOneOf" [("values", bracketed (describeAll members))]
  | isEqualTo expected => describeRecord "IsEqualTo" [("expected", expected.describe)]
  | anyOf members => "Or((" ++ commaList (describeMembers members) ++ "))"
  | allOf members => "And((" ++ commaList (describeMembers members) ++ "))"
  | anyOfList members => "Or(" ++ bracketed (describeMembers members) ++ ")"
  | allOfList members => "And(" ++ bracketed (describeMembers members) ++ ")"
  | merged _ _ => "Or((Erased, Erased))"
  | not guard => "Not(" ++ guard.describe ++ ")"
  | erased _ => "Erased"
  | traced name guard =>
    describeRecord "Traced" [("inner", guard.describe), ("name", Text.quote name)]
  | predicate _ => unnamedText
termination_by structural guard => guard

/-- How the fields of a shape are shown. -/
def describeFields : List (Key × Guard) → List String
  | [] => []
  | (key, guard) :: rest => (key.describe ++ ": " ++ guard.describe) :: describeFields rest
termination_by structural shape => shape

/-- How each of several guards is shown. -/
def describeMembers : List Guard → List String
  | [] => []
  | guard :: rest => guard.describe :: describeMembers rest
termination_by structural members => members

end

/-- A union whose sides are merged is shown as the union. -/
theorem describe_merged (first second : Guard) :
    (merged first second).describe = (anyOf [erased first, erased second]).describe := rfl

end Guard

/-- How a shape error is shown in full. -/
def ShapeError.describe : ShapeError → String
  | notAGuard key => describeRecord "NotAGuard" [("key", key.describe)]
  | notAnObject typeOf => describeRecord "NotAnObject" [("type_of", Text.quote typeOf)]

end Narrowing
