import Narrowing.Guard.Classify
import Narrowing.Guard.Logged
/-!
# Evaluating guards

A guard is evaluated in two ways.  `narrow` gives the view of an accepted value, and `check`
only says whether the value is accepted.  They are not the same computation: alternatives and
traced guards narrow their members even where only the verdict is asked for, while negation,
erasure and the guards of properties and fields check theirs even where a view is asked for.

Members are evaluated in order and no further than the verdict needs.
-/

namespace Narrowing

/-- The tests that the caller supplies, by number. -/
abbrev Predicates : Type := Nat → Value Guard → Logged Bool

/-- The properties of an ordinary object. -/
def Value.record? (v : Value Guard) : Option (Table (Value Guard)) :=
  match v with
  | .object (.mk _ .ordinary _ properties) => some properties
  | _ => none

/-- The elements of an array. -/
def Value.elements? (v : Value Guard) : Option (List (Value Guard)) :=
  v.object?.bind Object.elements?

namespace Guard

/-- Records the evaluation of a traced guard after it. -/
def traceResult (name : String) (v : Value Guard) (narrowed : Logged (Option View)) :
    Logged (Option View) := do
  let view ← narrowed
  Logged.record (.evaluated name v.typeOf view.isSome)
  return view

/-- The key of a property beside the view of its value. -/
def viewField (view : Value Guard → Logged (Option View)) (field : Key × Value Guard) :
    Logged (Option View) := do
  return (← view field.2).map fun it => .tuple [.key field.1, it]

/-- Whether a value inherits from the prototype of a constructor. -/
def isInstance (constructor : Function Guard) (v : Value Guard) : Option View :=
  match constructor.prototype, v with
  | some prototype, .object o => View.acceptedObject o (o.inheritsFrom prototype)
  | _, _ => none

/-- The key that a value names, if it is one of the container's. -/
def keyOf (container v : Value Guard) : Option View :=
  v.key?.bind fun key => if container.hasProperty key then some (.key key) else none

/-- The value, if it is one of several. -/
def oneOf (members : List (Value Guard)) (v : Value Guard) : Option View :=
  View.accepted v (members.any fun member => member.sameValueZero v)

mutual

/-- The view that a guard gives of a value that it accepts. -/
def narrow (p : Predicates) : Guard → Value Guard → Logged (Option View)
  | classifier c, v => return c.narrow v
  | has key, v => return View.accepted v (v.hasProperty key)
  | hasWith key guard, v =>
    match v.isNullish, v.get? key with
    | false, some field => return View.accepted v (← check p guard field)
    | _, _ => return none
  | isKeyOf container, v => return keyOf container v
  | isLike shape, v =>
    match v with
    | .object o => return View.acceptedObject o (← checkPresent p shape v)
    | _ => return none
  | isSimilarTo shape, v =>
    match v with
    | .object o => return View.acceptedObject o (← checkFields p shape v)
    | _ => return none
  | isArrayOf element, v =>
    match v.elements? with
    | some elements => return (← Logged.collect (narrow p element) elements).map View.list
    | none => return none
  | isRecordOf field, v =>
    match v.record? with
    | some fields => return (← Logged.collect (viewField (narrow p field)) fields).map View.list
    | none => return none
  | isInstanceOf constructor, v => return isInstance constructor v
  | isOneOf members, v => return oneOf members v
  | isEqualTo expected, v => return View.accepted v (v.equal expected)
  | anyOf members, v => narrowPosition p members.length members 0 v
  | allOf members, v => return (← narrowAll p members v).map View.tuple
  | anyOfList members, v => narrowFirst p members v
  | allOfList members, v => return (← narrowAll p members v).map View.list
  | merged first second, v => do
    if ← check p first v then
      return some (.value v)
    else
      return View.accepted v (← check p second v)
  | not guard, v => return View.accepted v !(← check p guard v)
  | erased guard, v => return View.accepted v (← check p guard v)
  | traced name guard, v => traceResult name v (narrow p guard v)
  | predicate index, v => return View.accepted v (← p index v)
termination_by structural guard => guard

/-- Whether a guard accepts a value. -/
def check (p : Predicates) : Guard → Value Guard → Logged Bool
  | classifier c, v => return c.check v
  | has key, v => return v.hasProperty key
  | hasWith key guard, v =>
    match v.isNullish, v.get? key with
    | false, some field => check p guard field
    | _, _ => return false
  | isKeyOf container, v => return (keyOf container v).isSome
  | isLike shape, v =>
    match v with
    | .object _ => checkPresent p shape v
    | _ => return false
  | isSimilarTo shape, v =>
    match v with
    | .object _ => checkFields p shape v
    | _ => return false
  | isArrayOf element, v =>
    match v.elements? with
    | some elements => Logged.all (check p element) elements
    | none => return false
  | isRecordOf field, v =>
    match v.record? with
    | some fields => Logged.all (fun entry => check p field entry.2) fields
    | none => return false
  | isInstanceOf constructor, v => return (isInstance constructor v).isSome
  | isOneOf members, v => return (oneOf members v).isSome
  | isEqualTo expected, v => return v.equal expected
  | anyOf members, v => return (← narrowPosition p members.length members 0 v).isSome
  | allOf members, v => return (← narrowAll p members v).isSome
  | anyOfList members, v => return (← narrowFirst p members v).isSome
  | allOfList members, v => return (← narrowAll p members v).isSome
  | merged first second, v => do
    if ← check p first v then return true else check p second v
  | not guard, v => return !(← check p guard v)
  | erased guard, v => check p guard v
  | traced name guard, v => return (← traceResult name v (narrow p guard v)).isSome
  | predicate index, v => p index v
termination_by structural guard => guard

/-- Whether every field is present and accepted.  A field's guard sees the value found under
the field's key. -/
def checkPresent (p : Predicates) : List (Key × Guard) → Value Guard → Logged Bool
  | [], _ => return true
  | (key, guard) :: rest, v =>
    match v.get? key with
    | some field => do
      if ← check p guard field then checkPresent p rest v else return false
    | none => return false
termination_by structural shape => shape

/-- Whether every field is accepted, an absent one as `undefined`. -/
def checkFields (p : Predicates) : List (Key × Guard) → Value Guard → Logged Bool
  | [], _ => return true
  | (key, guard) :: rest, v => do
    if ← check p guard ((v.get? key).getD .undefined) then
      checkFields p rest v
    else
      return false
termination_by structural shape => shape

/-- The view of the first member that accepts, injected at its position among `arity`
alternatives.  The members given start at a position. -/
def narrowPosition (p : Predicates) (arity : Nat) :
    List Guard → Nat → Value Guard → Logged (Option View)
  | [], _, _ => return none
  | guard :: rest, position, v => do
    match ← narrow p guard v with
    | some view => return some (view.inject position arity)
    | none => narrowPosition p arity rest (position + 1) v
termination_by structural members => members

/-- The view of the first member that accepts. -/
def narrowFirst (p : Predicates) : List Guard → Value Guard → Logged (Option View)
  | [], _ => return none
  | guard :: rest, v => do
    match ← narrow p guard v with
    | some view => return some view
    | none => narrowFirst p rest v
termination_by structural members => members

/-- The views of all members, if each accepts. -/
def narrowAll (p : Predicates) : List Guard → Value Guard → Logged (Option (List View))
  | [], _ => return some []
  | guard :: rest, v => do
    match ← narrow p guard v with
    | some view => return (← narrowAll p rest v).map (view :: ·)
    | none => return none
termination_by structural members => members

end

end Guard

end Narrowing
