import Mathlib.Tactic.Lemma
import Narrowing.Guard.Evaluate
/-!
# The two ways to evaluate a guard agree

A guard is narrowed or checked, and the two are written apart: collections have a loop of
their own for each, and the parts of a guard are narrowed or checked by what the part is for
and not by what was asked of the whole.  This file shows that the difference cannot be
observed.  Forgetting the view that `narrow` gives leaves `check`, as evaluations: the verdict
is the same, and so is the record of what happened on the way.

The induction is on the guards that a guard is made of, `children_induction`.  It does not
look at the guards that functions inside values carry, since evaluating never runs those.
-/

namespace Narrowing

namespace Guard

/-! ### The guards that a guard is made of -/

/-- The guards that a guard is made of. -/
def children : Guard → List Guard
  | hasWith _ guard => [guard]
  | isLike shape => shape.map Prod.snd
  | isSimilarTo shape => shape.map Prod.snd
  | isArrayOf element => [element]
  | isRecordOf field => [field]
  | anyOf members => members
  | allOf members => members
  | anyOfList members => members
  | allOfList members => members
  | merged first second => [first, second]
  | not guard => [guard]
  | erased guard => [guard]
  | traced _ guard => [guard]
  | _ => []

lemma sizeOf_lt_of_mem_fields {child : Guard} {shape : List (Key × Guard)}
    (h : child ∈ shape.map Prod.snd) : sizeOf child < sizeOf shape := by
  obtain ⟨⟨key, guard⟩, hfield, rfl⟩ := List.mem_map.1 h
  have hlt : sizeOf (key, guard) < sizeOf shape := List.sizeOf_lt_of_mem hfield
  rw [Prod.mk.sizeOf_spec] at hlt
  show sizeOf guard < sizeOf shape
  omega

lemma sizeOf_lt_of_mem_children {child g : Guard} (h : child ∈ g.children) :
    sizeOf child < sizeOf g := by
  cases g with
  | isLike shape | isSimilarTo shape =>
    have hlt := sizeOf_lt_of_mem_fields h
    simp only [isLike.sizeOf_spec, isSimilarTo.sizeOf_spec]
    omega
  | anyOf members | allOf members | anyOfList members | allOfList members =>
    have hlt : sizeOf child < sizeOf members := List.sizeOf_lt_of_mem h
    simp only [anyOf.sizeOf_spec, allOf.sizeOf_spec, anyOfList.sizeOf_spec,
      allOfList.sizeOf_spec]
    omega
  | merged first second =>
    simp only [children, List.mem_cons, List.not_mem_nil, or_false] at h
    rw [merged.sizeOf_spec]
    rcases h with rfl | rfl
    · omega
    · omega
  | hasWith _ guard | isArrayOf guard | isRecordOf guard | not guard | erased guard
  | traced _ guard =>
    obtain rfl := List.mem_singleton.1 h
    simp only [hasWith.sizeOf_spec, isArrayOf.sizeOf_spec, isRecordOf.sizeOf_spec,
      not.sizeOf_spec, erased.sizeOf_spec, traced.sizeOf_spec]
    omega
  | _ => simp [children] at h

/-- A property of guards that passes from the children of a guard to the guard holds of every
guard. -/
theorem children_induction {motive : Guard → Prop}
    (step : ∀ g : Guard, (∀ child ∈ g.children, motive child) → motive g) (g : Guard) :
    motive g :=
  step g fun child _ => children_induction step child
termination_by sizeOf g
decreasing_by exact sizeOf_lt_of_mem_children ‹_›

end Guard

/-! ### The loops of collections -/

namespace Logged

variable {α β : Type}

/-- Forgetting the result of a view and branching is branching on the verdict of the view. -/
lemma isSome_bind {view : Logged (Option α)} {next : Option α → Logged (Option β)}
    {branch : Bool → Logged Bool} (hsome : ∀ a, Option.isSome <$> next (some a) = branch true)
    (hnone : Option.isSome <$> next none = branch false) :
    Option.isSome <$> (view >>= next) = (Option.isSome <$> view) >>= branch := by
  rw [map_bind, bind_map_left]
  refine bind_congr fun result => ?_
  cases result with
  | none => exact hnone
  | some a => exact hsome a

/-- Collecting the views of items decides as testing them does, and stops where it stops. -/
lemma isSome_collect {view : α → Logged (Option β)} {test : α → Logged Bool}
    (h : ∀ a, Option.isSome <$> view a = test a) (items : List α) :
    Option.isSome <$> collect view items = all test items := by
  induction items with
  | nil => simp [collect, all]
  | cons a rest ih =>
    rw [collect, all, ← h a]
    refine isSome_bind (fun b => ?_) (by simp)
    simp [← ih]

end Logged

namespace Guard

variable {p : Predicates}

lemma isSome_viewField {view : Value Guard → Logged (Option View)}
    (field : Key × Value Guard) :
    Option.isSome <$> viewField view field = Option.isSome <$> view field.2 := by
  simp [viewField]

/-! ### Agreement -/

/-- Narrowing a value and forgetting the view is checking the value. -/
@[simp] theorem isSome_narrow (g : Guard) (v : Value Guard) :
    Option.isSome <$> narrow p g v = check p g v := by
  induction g using children_induction generalizing v with
  | step g ih =>
    cases g with
    | isArrayOf element =>
      -- the only guards whose parts are narrowed in one evaluation and checked in the other
      -- are those of collections, so the hypothesis is needed here alone
      have hpart : ∀ w, Option.isSome <$> narrow p element w = check p element w :=
        ih element (by simp [children])
      simp only [narrow, check]
      cases v.elements? with
      | none => simp
      | some elements => simp [← Logged.isSome_collect hpart elements]
    | isRecordOf field =>
      have hpart : ∀ entry : Key × Value Guard,
          Option.isSome <$> viewField (narrow p field) entry = check p field entry.2 := by
        intro entry
        rw [isSome_viewField, ih field (by simp [children])]
      simp only [narrow, check]
      cases v.record? with
      | none => simp
      | some fields => simp [← Logged.isSome_collect hpart fields]
    | hasWith key guard =>
      simp only [narrow, check]
      split <;> simp
    | isLike shape | isSimilarTo shape => cases v <;> simp [narrow, check]
    | merged first second =>
      simp only [narrow, check, map_bind]
      refine bind_congr fun passed => ?_
      cases passed <;> simp
    -- one evaluation of any other guard is written through the other, so that its parts are
    -- evaluated the same way in both
    | _ => simp [narrow, check, Classifier.check]

/-- **The two ways to evaluate a guard agree.**  A guard accepts a value exactly when it gives
a view of it, and the same events happen in the same order. -/
theorem check_agrees_with_narrow (p : Predicates) (g : Guard) (v : Value Guard) :
    ((check p g v).result = true ↔ (narrow p g v).result.isSome = true) ∧
      (check p g v).events = (narrow p g v).events := by
  rw [← isSome_narrow g v]
  exact ⟨by rw [Logged.result_map], by rw [Logged.events_map]⟩

end Guard

end Narrowing
