/-!
# Declarations of combined guards

Guards over a tuple are declared once for each number of members, the arity, and the
declarations are written by program.  A family of declarations says what it means for a tuple
to pass: some member accepts, or all do.  This file holds what a declaration says, apart from
its text: the type of its result, and what it does with its members.

The result of a union is a neutral sum that nests to the right, so that the member at a
position is that many steps to the right and one to the left, and the last member has no
step to the left.  The result of an intersection is a tuple.
-/

namespace Narrowing.Declaration

/-- The two ways to combine guards. -/
inductive Family where
  /-- Some member accepts. -/
  | or
  /-- Every member accepts. -/
  | and
deriving DecidableEq, Inhabited

/-- The families in the order in which they are written. -/
def Family.all : List Family := [.or, .and]

/-- The arities from two to a greatest one. -/
def arities (greatest : Nat) : List Nat := List.range' 2 (greatest - 1)

/-- The first `count` of the arities from two to a greatest one. -/
def firstArities (greatest count : Nat) : List Nat := List.range' 2 (min count (greatest - 1))

/-- The arities are enumerated in order, so the first of them do not depend on how many follow. -/
theorem firstArities_eq_take (greatest count : Nat) :
    firstArities greatest count = (arities greatest).take count := by
  apply List.ext_getElem
  · simp [firstArities, arities]
  · simp [firstArities, arities]

/-- The type of a result.  Members are numbered from one in types. -/
inductive Target where
  /-- The view of a member. -/
  | member (number : Nat)
  /-- A neutral sum of two types. -/
  | either (left right : Target)
  /-- A tuple of the views of several members. -/
  | tuple (numbers : List Nat)
deriving DecidableEq

/-- A union of members, made from the last one outward. -/
def Target.union (numbers : List Nat) : Target :=
  match numbers.reverse with
  | [] => tuple []
  | last :: before =>
    before.foldl (fun following number => either (member number) following) (member last)

/-- The type of the result for an arity. -/
def Target.ofFamily (arity : Nat) : Family → Target
  | .or => union (List.range' 1 arity)
  | .and => tuple (List.range' 1 arity)

/-- An expression that puts the view of a member into a union. -/
inductive Injection where
  /-- The view itself. -/
  | view
  | left (of : Injection)
  | right (of : Injection)
deriving DecidableEq

/-- An expression some steps to the right. -/
def Injection.rights : Nat → Injection → Injection
  | 0, e => e
  | steps + 1, e => right (rights steps e)

/-- The injection of the member at a position among `arity` members. -/
def Injection.atPosition (position arity : Nat) : Injection :=
  rights position (if position + 1 = arity then view else left view)

/-- What a declaration does with the members of a tuple. -/
inductive Body where
  /-- Tries the members at these positions in order and returns the injected view of the first
  that accepts; the last one's answer is the answer. -/
  | firstOf (attempts : List (Nat × Injection)) (last : Nat × Injection)
  /-- Narrows the members at these positions in order and gives up at the first that does
  not accept. -/
  | allOf (positions : List Nat)

/-- The body for an arity of at least two. -/
def Body.ofFamily (arity : Nat) : Family → Body
  | .or => .firstOf
      ((List.range (arity - 1)).map fun i => (i, Injection.atPosition i arity))
      (arity - 1, Injection.atPosition (arity - 1) arity)
  | .and => .allOf (List.range arity)

end Narrowing.Declaration
