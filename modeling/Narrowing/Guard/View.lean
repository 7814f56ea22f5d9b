import Narrowing.Guard.Basic
/-!
# Views

What a guard gives when it accepts a value.  A tuple of alternatives gives a view that says
which of them accepted: the members form a union that nests to the right, so the member at a
position is that many steps to the right and then one to the left, and the last member has
no step to the left.
-/

namespace Narrowing

/-- A view of an accepted value. -/
inductive View where
  | unit
  | boolean (b : Bool)
  | number (x : Double)
  | bigint (n : Int)
  | string (s : String)
  | symbol (s : Symbol)
  | function (f : Function Guard)
  | object (o : Object Guard)
  | elements (values : List (Value Guard))
  | key (k : Key)
  | value (v : Value Guard)
  | list (views : List View)
  | tuple (views : List View)
  | left (view : View)
  | right (view : View)

namespace View

/-- A view some steps to the right. -/
def rights : Nat → View → View
  | 0, view => view
  | steps + 1, view => right (rights steps view)

/-- The view of the member at a position among `arity` alternatives. -/
def inject (position arity : Nat) (view : View) : View :=
  rights position (if position + 1 = arity then view else left view)

/-- The view on either side of a sum whose sides have one type. -/
def merge : View → View
  | left view => view
  | right view => view
  | view => view

/-- A value as it is, if a test accepted it. -/
def accepted (v : Value Guard) (passed : Bool) : Option View :=
  if passed then some (value v) else none

/-- An object as it is, if a test accepted it. -/
def acceptedObject (o : Object Guard) (passed : Bool) : Option View :=
  if passed then some (object o) else none

@[simp] theorem isSome_accepted (v : Value Guard) (passed : Bool) :
    (accepted v passed).isSome = passed := by
  cases passed <;> rfl

@[simp] theorem isSome_acceptedObject (o : Object Guard) (passed : Bool) :
    (acceptedObject o passed).isSome = passed := by
  cases passed <;> rfl

end View

end Narrowing
