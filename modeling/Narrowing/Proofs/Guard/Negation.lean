import Narrowing.Proofs.Guard.Deciding
/-!
# Negated guards

The negation of a union accepts what the intersection of the negated members accepts, and the
negation of an intersection accepts what the union of the negated members accepts.  The two
sides of each law are evaluated by different loops, and their members are narrowed on one side
and checked on the other.

Still they cannot be told apart.  A loop stops at the first member that settles its verdict, and
this is the same member on both sides, since a member settles a union by accepting exactly if
its negation settles an intersection by rejecting.
-/

namespace Narrowing

namespace Logged

variable {α β : Type} {test : α → Logged Bool} {opposite : β → Logged Bool} {f : α → β}

/-- Requiring the opposite of each test is the opposite of requiring one of them. -/
lemma all_opposite (h : ∀ a, opposite (f a) = Bool.not <$> test a) (items : List α) :
    all opposite (items.map f) = Bool.not <$> any test items := by
  induction items with
  | nil => simp [all, any]
  | cons a rest ih =>
    simp only [List.map_cons, all, any, h, ih, map_bind, bind_map_left]
    refine bind_congr fun passed => ?_
    cases passed <;> simp

/-- Requiring the opposite of one test is the opposite of requiring each of them. -/
lemma any_opposite (h : ∀ a, opposite (f a) = Bool.not <$> test a) (items : List α) :
    any opposite (items.map f) = Bool.not <$> all test items := by
  induction items with
  | nil => simp [all, any]
  | cons a rest ih =>
    simp only [List.map_cons, all, any, h, ih, map_bind, bind_map_left]
    refine bind_congr fun passed => ?_
    cases passed <;> simp

end Logged

namespace Guard

variable {p : Predicates}

/-- The forms in which guards are combined. -/
inductive Form where
  | tuple
  | list

/-- Some member accepts. -/
def Form.any : Form → List Guard → Guard
  | tuple => .anyOf
  | list => .anyOfList

/-- Every member accepts. -/
def Form.all : Form → List Guard → Guard
  | tuple => .allOf
  | list => .allOfList

lemma check_not (g : Guard) (v : Value Guard) :
    check p (.not g) v = Bool.not <$> check p g v := by
  simp [check]

lemma check_any (form : Form) (members : List Guard) (v : Value Guard) :
    check p (form.any members) v = Logged.any (fun g => check p g v) members := by
  cases form with
  | tuple => exact check_anyOf members v
  | list => exact check_anyOfList members v

lemma check_all (form : Form) (members : List Guard) (v : Value Guard) :
    check p (form.all members) v = Logged.all (fun g => check p g v) members := by
  cases form with
  | tuple => exact check_allOf members v
  | list => exact check_allOfList members v

/-- **De Morgan's laws.**  A negated union and the intersection of the negated members have the
same verdict and the same events on every value, and so have a negated intersection and the
union of the negated members, and a guard and its double negation.  Either side may be a tuple
or a list of any length, and may be narrowed or checked. -/
theorem de_morgan (p : Predicates) (left right : Way) (form other : Form)
    (members : List Guard) (g : Guard) (v : Value Guard) :
    verdict p left (.not (form.any members)) v =
        verdict p right (other.all (members.map .not)) v ∧
      verdict p left (.not (form.all members)) v =
        verdict p right (other.any (members.map .not)) v ∧
      verdict p left (.not (.not g)) v = verdict p right g v := by
  have hnot (g : Guard) : check p (.not g) v = Bool.not <$> check p g v := check_not g v
  simp only [verdict_eq_check]
  refine ⟨?_, ?_, ?_⟩
  · rw [hnot, check_any, check_all, Logged.all_opposite hnot]
  · rw [hnot, check_all, check_any, Logged.any_opposite hnot]
  · rw [hnot, hnot]
    simp

end Guard

end Narrowing
