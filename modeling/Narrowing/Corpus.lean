import Narrowing.Guard.Evaluate
/-!
# A corpus of samples

Named values of every kind, for testing guards against a table.  `acceptedNames` lists the
samples that a guard accepts, and `expectAccepted` and `expectRejected` give the message of a
test that fails.
-/

namespace Narrowing

variable {γ : Type}

/-- An ordinary object with these properties. -/
def Object.ofProperties (properties : List (Key × Value γ)) : Build (Value γ) := do
  let builder := properties.foldl (fun b p => b.property p.1 p.2) Object.builder
  return .object (← builder.build)

/-- An instance of a constructor with these properties. -/
def Function.instanceWith (f : Function γ) (properties : List (Key × Value γ)) :
    Build (Value γ) := do
  let builder := properties.foldl (fun b p => b.property p.1 p.2) f.newInstance
  return .object (← builder.build)

/-- A new function as a value. -/
def functionValue (name : String) (kind : FunctionKind) : Build (Value γ) := do
  return .function (← Function.ofKind name kind)

/-- A new object with this content as a value. -/
def contentValue (content : Content γ) : Build (Value γ) := do
  return .object (← Object.ofContent content)

namespace Corpus

/-- The key `a`. -/
def keyA : Key := .string "a"

/-- The key `b`. -/
def keyB : Key := .string "b"

/-- The number zero as a value. -/
def zero : Value γ := .number .zero

/-- The number one as a value. -/
def one : Value γ := .number (.ofNat 1)

/-- The samples with their names: new values on each use, apart from the intrinsic objects. -/
def samples : Build (List (String × Value γ)) := do
  let classA ← Function.ofClass "A" [.method "method"]
  let classB ← Function.ofClass "B" [.extends classA]
  let plain ← Object.builder.build
  let object : Value γ := .object plain
  let bare ← { Object.builder with parent := .nothing : ObjectBuilder γ }.build
  return [
    ("null", .null),
    ("undefined", .undefined),
    ("nan", .number .nan),
    ("invalid_date", ← contentValue (.date .nan)),
    ("number", .number (.ofInt (-1))),
    ("number_object", ← contentValue (.boxedNumber .zero)),
    ("string", .string ""),
    ("string_object", ← contentValue (.boxedString "")),
    ("true", .boolean true),
    ("false", .boolean false),
    ("true_object", ← contentValue (.boxedBoolean true)),
    ("symbol", .symbol (← Build.freshSymbol none)),
    ("bigint", .bigint 12345),
    ("arrow_function", ← functionValue "arrow" .arrow),
    ("declared_function", ← functionValue "declared" .declared),
    ("async_function", ← functionValue "run" .async),
    ("generator_function", ← functionValue "gen" .generator),
    ("class_a", .function classA),
    ("class_b", .function classB),
    ("object", object),
    ("bare_object", .object bare),
    ("instance_a", ← classA.instanceWith [(keyA, zero)]),
    ("instance_b", ← classB.instanceWith [(keyA, zero), (keyB, zero)]),
    ("duck_a", ← Object.ofProperties
      [(keyA, zero), (.string "method", ← functionValue "method" .method)]),
    ("duck_b", ← Object.ofProperties
      [(keyA, zero), (keyB, zero), (.string "method", ← functionValue "method" .method)]),
    ("array", ← contentValue (.array [])),
    ("array_of_objects", ← contentValue (.array [object])),
    ("array_like", ← Object.ofProperties [(Key.length, one), (.index 0, object)]),
    ("record_of_strings", ← Object.ofProperties
      [(.index 0, .string ""), (keyA, .string ""),
        (.symbol (← Build.freshSymbol none), .string "")]),
    ("date", ← contentValue (.date (.ofNat 1700000000000))),
    ("regexp", .object (← Object.regExp "regexp" "")),
    ("promise", ← contentValue .promise),
    ("thenable", ← Object.ofProperties [(.string "then", ← functionValue "then" .arrow)]),
    ("map", ← contentValue (.map [(one, one)])),
    ("set", ← contentValue (.set [one])),
    ("weak_map", ← contentValue .weakMap),
    ("weak_set", ← contentValue .weakSet)]

/-- The names of the values that a guard accepts, in order. -/
def acceptedAmong (p : Predicates) (guard : Guard) :
    List (String × Value Guard) → Logged (List String)
  | [] => return []
  | (name, v) :: rest => do
    let passed ← guard.check p v
    let names ← acceptedAmong p guard rest
    return if passed then name :: names else names

/-- The names of the samples that a guard accepts. -/
def acceptedNames (p : Predicates) (guard : Guard) : Build (Logged (List String)) := do
  return acceptedAmong p guard (← samples)

end Corpus

/-! ### Expectations -/

/-- What a failed expectation says about a value. -/
def expectationMessage (verb : String) (v : Value γ) : String :=
  "Expected guard to " ++ verb ++ " " ++ v.describe

/-- The message if a guard does not accept a value. -/
def expectAccepted (p : Predicates) (guard : Guard) (v : Value Guard) :
    Logged (Option String) := do
  return if ← guard.check p v then none else some (expectationMessage "accept" v)

/-- The message if a guard does not reject a value. -/
def expectRejected (p : Predicates) (guard : Guard) (v : Value Guard) :
    Logged (Option String) := do
  return if ← guard.check p v then some (expectationMessage "reject" v) else none

/-- The view that a guard gives of a value, or the message if it does not accept it. -/
def expectView (p : Predicates) (guard : Guard) (v : Value Guard) :
    Logged (Except String View) := do
  match ← guard.narrow p v with
  | some view => return .ok view
  | none => return .error (expectationMessage "accept" v)

end Narrowing
