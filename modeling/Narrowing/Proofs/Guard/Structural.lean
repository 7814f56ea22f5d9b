import Narrowing.Proofs.Guard.Deciding
import Narrowing.Proofs.Guard.Description
import Narrowing.Proofs.Value.Ancestry
/-!
# Matching by structure alone

The guards over a shape look at an object through the lookups of their keys and in no other way.
Two objects on which these lookups find the same are not told apart: the verdict is the same, and
so is the record of the evaluation.  What the objects hold, what they inherit from, which class
they are instances of and what else they have plays no part.

So an object can be flattened.  A plain object that has as its own what a lookup finds on another
one, at whatever distance, matches where the other one does.  Only what a lookup does not find
could make a difference, since the plain object inherits the methods that all objects have.  It
makes none for an object that inherits them too, and every instance of a class does.
-/

namespace Narrowing

/-- The test of all items depends on the tests of the items. -/
lemma Logged.all_congr {α : Type} {test other : α → Logged Bool} {items : List α}
    (h : ∀ a ∈ items, test a = other a) : all test items = all other items := by
  induction items with
  | nil => rfl
  | cons a rest ih =>
    rw [all, all, h a List.mem_cons_self, ih fun b hb => h b (List.mem_cons_of_mem _ hb)]

/-! ### Copies -/

variable {γ : Type}

namespace Value

/-- What lookups of keys find, under the keys. -/
def members (keys : List Key) (v : Value γ) : List (Key × Value γ) :=
  keys.filterMap fun k => (v.get? k).map fun found => (k, found)

/-- A plain object that has as its own what lookups of keys find. -/
def copy (keys : List Key) (v : Value γ) : Build (Object γ) :=
  (Object.builder.steps ((v.members keys).map fun put => .property put.1 put.2)).build

lemma run_copy (keys : List Key) (v : Value γ) (supply : Supply) :
    ((v.copy keys).run supply).1 =
      .mk supply.identity .ordinary (some Intrinsic.root) (Table.ofPuts (v.members keys)) := by
  show Object.mk supply.identity (ObjectBuilder.steps _ _).content
    (ObjectBuilder.steps _ _).finalParent (ObjectBuilder.steps _ _).properties = _
  rw [ObjectBuilder.content_steps, ObjectBuilder.finalParent_steps_property,
    ObjectBuilder.properties_steps rfl, ObjectBuilder.filterMap_put?_property]
  rfl

lemma lastPut?_members (keys : List Key) (v : Value γ) (k : Key) :
    lastPut? k (v.members keys) = if k ∈ keys then v.get? k else none := by
  induction keys using List.reverseRecOn with
  | nil => rfl
  | append_singleton keys key ih =>
    rw [members, filterMap_append_singleton, ← members]
    cases hfound : v.get? key with
    | none =>
      rw [Option.map_none, Option.toList_none, List.append_nil, ih]
      by_cases hkey : k = key
      · simp [hkey, hfound]
      · simp [hkey]
    | some found =>
      rw [Option.map_some, Option.toList_some, lastPut?_append_singleton, ih]
      by_cases hkey : key = k
      · simp [← hkey, hfound]
      · simp [hkey, Ne.symm hkey]

/-- On a copy, a key is found as on the value, if the value has whatever all objects have. -/
lemma get?_copy {v : Value γ} (hroot : Intrinsic.root ∈ v.line) {keys : List Key} {k : Key}
    (hk : k ∈ keys) (supply : Supply) :
    (object ((v.copy keys).run supply).1).get? k = v.get? k := by
  have hown : (object ((v.copy keys).run supply).1).getOwn? k = v.get? k := by
    show Object.getOwn? ((v.copy keys).run supply).1 k = _
    rw [run_copy, Object.getOwn?_ofPuts, lastPut?_members, if_pos hk]
  have hchain : (object ((v.copy keys).run supply).1).chain = [Intrinsic.root] := by
    rw [run_copy]
    rfl
  rw [get?, hown, hchain, List.findSome?_singleton]
  cases hfound : v.get? k with
  | some found => rfl
  | none =>
    -- what all objects have would have been found on the value
    rw [Option.none_or, ← Option.not_isSome_iff_eq_none]
    intro hinherited
    have hin := hasInChain_of_mem_line hroot hinherited
    rw [hasInChain, hfound] at hin
    exact Bool.false_ne_true hin

end Value

/-! ### Instances -/

/-- An instance of a class inherits from the intrinsic object for objects. -/
lemma Session.root_mem_line_instantiate {made : List (Definition γ)} {supply : Supply}
    (h : Session made supply) {f : Function γ} (hf : Known made f)
    (puts : List (Key × Value γ)) (s : Supply) :
    Intrinsic.root ∈ (Value.object ((f.instantiate puts).run s).1).line := by
  rw [Value.line_object]
  refine List.mem_cons_of_mem _ ?_
  cases hconstructor : f.isConstructor with
  | false =>
    rw [Function.ancestors_instantiate hconstructor]
    exact List.mem_singleton_self _
  | true =>
    obtain ⟨d, hd, rfl⟩ := hf hconstructor
    rw [h.ancestors_instantiate hd hconstructor]
    exact List.mem_append_right _ (List.mem_singleton_self _)

/-! ### What is not looked at -/

namespace Guard

variable {p : Predicates}

/-- A guard over a shape depends on the lookups of the keys of the shape. -/
lemma check_congr_get? {form : Shape → Guard} (hform : form ∈ shapeForms) {shape : Shape}
    {a b : Object Guard}
    (h : ∀ k ∈ Table.keys shape, (Value.object a).get? k = (Value.object b).get? k) :
    check p (form shape) (.object a) = check p (form shape) (.object b) := by
  have hfield : ∀ field ∈ shape,
      (Value.object a).get? field.1 = (Value.object b).get? field.1 :=
    fun field hmem => h field.1 (List.mem_map_of_mem hmem)
  rw [shapeForms, List.mem_pair] at hform
  rcases hform with rfl | rfl
  · rw [check_isLike, check_isLike]
    refine Logged.all_congr fun field hmem => ?_
    rw [testPresent, testPresent, hfield field hmem]
  · rw [check_isSimilarTo, check_isSimilarTo]
    refine Logged.all_congr fun field hmem => ?_
    rw [testField, testField, hfield field hmem]

/-- **Class identity is not looked at.**  A guard over a shape, checked or narrowed, has the same
verdict and the same events on two objects if lookups of the keys of the shape find the same on
both.  So an object that inherits from the intrinsic object for objects is not told apart from
its copy, a plain object that has as its own what is found, and neither is an instance of any
class. -/
theorem class_identity_is_not_looked_at (p : Predicates) (way : Way) {form : Shape → Guard}
    (hform : form ∈ shapeForms) (shape : Shape) :
    (∀ a b : Object Guard,
      (∀ k ∈ Table.keys shape, (Value.object a).get? k = (Value.object b).get? k) →
      verdict p way (form shape) (.object a) = verdict p way (form shape) (.object b)) ∧
    (∀ (a : Object Guard) (s : Supply), Intrinsic.root ∈ (Value.object a).line →
      verdict p way (form shape) (.object a) =
        verdict p way (form shape) (.object (((Value.object a).copy shape.keys).run s).1)) ∧
    ∀ (made : List (Definition Guard)) (supply : Supply), Session made supply →
      ∀ (f : Function Guard), Known made f →
      ∀ (puts : List (Key × Value Guard)) (s t : Supply),
        let a := ((f.instantiate puts).run s).1
        verdict p way (form shape) (.object a) =
          verdict p way (form shape) (.object (((Value.object a).copy shape.keys).run t).1) := by
  rw [verdict_eq_check]
  have hcopy (a : Object Guard) (s : Supply) (hroot : Intrinsic.root ∈ (Value.object a).line) :
      check p (form shape) (.object a) =
        check p (form shape) (.object (((Value.object a).copy shape.keys).run s).1) :=
    check_congr_get? hform fun k hk => (Value.get?_copy hroot hk s).symm
  refine ⟨fun a b h => check_congr_get? hform h, hcopy, ?_⟩
  intro made supply session f hf puts s t a
  exact hcopy a t (session.root_mem_line_instantiate hf puts s)

/-- An instance that inherits a member is not told apart from an array that has the member for an
element, nor from its own copy. -/
theorem class_identity_is_not_looked_at_of_row :
    let p : Predicates := fun _ _ => pure true
    let list : Function.Origin Guard := .ofClass "List" [.member (.index 0) (.boolean true)]
    let listClass := (list.make.run {}).1
    let row := ((listClass.instantiate []).run (list.make.run {}).2).1
    let array : Object Guard := .mk 600 (.array [.boolean true]) none []
    let shape : Shape := [(.index 0, .traced "first" (.classifier .isBoolean))]
    (Value.object row).get? (.index 0) = (Value.object array).get? (.index 0) ∧
      verdict p .narrow (.isLike shape) (.object row) =
        verdict p .narrow (.isLike shape) (.object array) ∧
      verdict p .check (.isSimilarTo shape) (.object row) =
        verdict p .check (.isSimilarTo shape)
          (.object (((Value.object row).copy shape.keys).run {}).1) := by
  intro p list listClass row array shape
  have hsession : Session [list.define {}] (list.make.run {}).2 :=
    Session.start.make list fun _ hparent => nomatch hparent
  have hfound : (Value.object row).get? (.index 0) = (Value.object array).get? (.index 0) := rfl
  have hlike : isLike ∈ shapeForms := List.mem_cons_self
  have hsimilar : isSimilarTo ∈ shapeForms := List.mem_cons_of_mem _ List.mem_cons_self
  refine ⟨hfound, (class_identity_is_not_looked_at p .narrow hlike shape).1 row array ?_, ?_⟩
  · intro k hk
    rw [List.mem_singleton.1 hk]
    exact hfound
  · exact (class_identity_is_not_looked_at p .check hsimilar shape).2.2 _ _ hsession listClass
      (.newest (list.define {}) []) [] (list.make.run {}).2 {}

end Guard

end Narrowing
