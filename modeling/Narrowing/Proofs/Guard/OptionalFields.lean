import Narrowing.Proofs.Guard.Presence
import Narrowing.Proofs.Guard.ShapeOrder
/-!
# Fields that may be absent

The two forms in which a shape is matched differ in what they make of a field that is absent.  One
rejects the object, and the other has the guard of the field decide about `undefined`.  So the
second form is the first one on the fields that are there, and asks of each other field only that
its guard accepts `undefined`.  Where no such guard does, the two forms have one verdict.

A field that is there and holds `undefined` is not absent.  What a lookup finds is the property of
the nearest object that has one, be it `undefined`, and both forms read what is found.  For such a
field they do the same, up to what is recorded on the way.
-/

namespace Narrowing

/-! ### What a lookup finds -/

namespace Value

variable {γ : Type}

/-- The property of a value under a key holds this: the value has it as its own, or it has no such
property and this is what the nearest object on its chain that has one holds. -/
inductive Holds (v : Value γ) (k : Key) (found : Value γ) : Prop
  | own : v.getOwn? k = some found → Holds v k found
  | inherited {nearer : List (Object γ)} {o : Object γ} {further : List (Object γ)} :
    v.getOwn? k = none → v.chain = nearer ++ o :: further →
    (∀ b ∈ nearer, b.getOwn? k = none) → o.getOwn? k = some found → Holds v k found

/-- A lookup finds what the property holds. -/
theorem get?_eq_some_iff (v : Value γ) (k : Key) (found : Value γ) :
    v.get? k = some found ↔ v.Holds k found := by
  rw [get?, Option.or_eq_some_iff, List.findSome?_eq_some_iff]
  constructor
  · rintro (hown | ⟨hown, nearer, o, further, hchain, hfound, hnearer⟩)
    · exact .own hown
    · exact .inherited hown hchain hnearer hfound
  · rintro (hown | ⟨hown, hchain, hnearer, hfound⟩)
    · exact .inl hown
    · exact .inr ⟨hown, _, _, _, hchain, hfound, hnearer⟩

end Value

/-! ### Fields before and after -/

/-- Items are tested after the items before them, if those pass. -/
lemma Logged.all_append {α : Type} (test : α → Logged Bool) (front back : List α) :
    all test (front ++ back) = (do
      if ← all test front then all test back else return false) := by
  induction front with
  | nil => simp [all]
  | cons a front ih =>
    simp only [List.cons_append, all, ih, bind_assoc]
    refine bind_congr fun passed => ?_
    cases passed <;> simp

namespace Guard

variable {p : Predicates}

/-! ### One field -/

/-- A value has the property: the guard that asks for it accepts the value. -/
def Has (p : Predicates) (v : Value Guard) (k : Key) : Prop := (check p (.has k) v).result = true

lemma has_iff (v : Value Guard) (k : Key) : Has p v k ↔ ∃ found, v.get? k = some found := by
  rw [Has, result_check_has, Value.hasProperty_eq, Value.hasInChain, Option.isSome_iff_exists]

/-- For a field that is there both forms read what is found. -/
lemma fieldAccepted_of_has {v : Value Guard} {k : Key} (h : Has p v k) (g : Guard) :
    FieldAccepted p readField v k g ↔ FieldAccepted p readPresent v k g := by
  obtain ⟨found, hfound⟩ := (has_iff v k).1 h
  simp [FieldAccepted, readField, readPresent, hfound]

/-- For an absent field the guard decides about `undefined`. -/
lemma fieldAccepted_of_not_has {v : Value Guard} {k : Key} (h : ¬ Has p v k) (g : Guard) :
    FieldAccepted p readField v k g ↔ (check p g .undefined).result = true := by
  have hfound : v.get? k = none :=
    Option.eq_none_iff_forall_ne_some.2 fun found hfound => h ((has_iff v k).2 ⟨found, hfound⟩)
  simp [FieldAccepted, readField, hfound]

lemma has_of_fieldAccepted {v : Value Guard} {k : Key} {g : Guard}
    (h : FieldAccepted p readPresent v k g) : Has p v k := by
  obtain ⟨found, hfound, -⟩ := h
  exact (has_iff v k).2 ⟨found, hfound⟩

/-! ### A shape -/

/-- The shape restricted to the keys that a value has. -/
def presentFields (p : Predicates) (shape : Shape) (v : Value Guard) : Shape :=
  shape.filter fun field => (check p (.has field.1) v).result

lemma mem_presentFields_iff {shape : Shape} {v : Value Guard} {field : Key × Guard} :
    field ∈ presentFields p shape v ↔ field ∈ shape ∧ Has p v field.1 := by
  rw [presentFields, List.mem_filter]
  rfl

/-- The second form is the first one on the fields that are there, and asks whether the others may
be absent. -/
lemma result_check_isSimilarTo_iff_present (shape : Shape) (v : Value Guard) :
    (check p (.isSimilarTo shape) v).result = true ↔
      (∃ o, v = .object o) ∧
        (check p (.isLike (presentFields p shape v)) v).result = true ∧
        ∀ field ∈ shape, ¬ Has p v field.1 → (check p field.2 .undefined).result = true := by
  rw [result_check_isSimilarTo_iff, result_check_isLike_iff]
  constructor
  · rintro ⟨hobject, hfields⟩
    refine ⟨hobject, ⟨hobject, fun field hmem => ?_⟩, fun field hmem hlacks => ?_⟩
    · obtain ⟨hshape, hhas⟩ := mem_presentFields_iff.1 hmem
      exact (fieldAccepted_of_has hhas _).1 (hfields field hshape)
    · exact (fieldAccepted_of_not_has hlacks _).1 (hfields field hmem)
  · rintro ⟨hobject, ⟨-, hpresent⟩, hlacking⟩
    refine ⟨hobject, fun field hmem => ?_⟩
    by_cases hhas : Has p v field.1
    · exact (fieldAccepted_of_has hhas _).2
        (hpresent field (mem_presentFields_iff.2 ⟨hmem, hhas⟩))
    · exact (fieldAccepted_of_not_has hhas _).2 (hlacking field hmem hhas)

/-- What the first form accepts has all fields. -/
lemma has_of_isLike {shape : Shape} {v : Value Guard}
    (h : (check p (.isLike shape) v).result = true) {field : Key × Guard} (hmem : field ∈ shape) :
    Has p v field.1 :=
  has_of_fieldAccepted (((result_check_isLike_iff shape v).1 h).2 field hmem)

lemma presentFields_eq_self {shape : Shape} {v : Value Guard}
    (h : ∀ field ∈ shape, Has p v field.1) : presentFields p shape v = shape :=
  List.filter_eq_self.2 h

lemma isSimilarTo_of_isLike {shape : Shape} {v : Value Guard}
    (h : (check p (.isLike shape) v).result = true) :
    (check p (.isSimilarTo shape) v).result = true := by
  have hall : ∀ field ∈ shape, Has p v field.1 := fun field hmem => has_of_isLike h hmem
  rw [result_check_isSimilarTo_iff_present, presentFields_eq_self hall]
  exact ⟨((result_check_isLike_iff shape v).1 h).1, h,
    fun field hmem hlacks => absurd (hall field hmem) hlacks⟩

/-- Where no guard of an absent field accepts `undefined`, the second form accepts no more. -/
lemma isLike_of_isSimilarTo {shape : Shape} {v : Value Guard}
    (hrejects : ∀ field ∈ shape, ¬ Has p v field.1 → (check p field.2 .undefined).result = false)
    (h : (check p (.isSimilarTo shape) v).result = true) :
    (check p (.isLike shape) v).result = true := by
  obtain ⟨-, hlike, hlacking⟩ := (result_check_isSimilarTo_iff_present shape v).1 h
  have hall : ∀ field ∈ shape, Has p v field.1 := by
    intro field hmem
    by_contra hlacks
    have haccepts := hlacking field hmem hlacks
    rw [hrejects field hmem hlacks] at haccepts
    exact Bool.false_ne_true haccepts
  rwa [presentFields_eq_self hall] at hlike

/-- A field that is there is evaluated alike, whatever it holds, between the fields before and after
it. -/
lemma check_append_of_holds {o : Object Guard} {k : Key} {found : Value Guard}
    (h : (Value.object o).Holds k found) (g : Guard) (front rest : Shape) {form : Shape → Guard}
    (hform : form ∈ shapeForms) :
    check p (form (front ++ (k, g) :: rest)) (.object o) = (do
      if ← check p (form front) (.object o) then
        if ← check p g found then check p (form rest) (.object o) else return false
      else return false) := by
  have hfound := (Value.get?_eq_some_iff _ _ _).2 h
  rw [shapeForms, List.mem_pair] at hform
  rcases hform with rfl | rfl
  · rw [check_isLike, check_isLike, check_isLike, Logged.all_append, Logged.all, testPresent, hfound]
  · rw [check_isSimilarTo, check_isSimilarTo, check_isSimilarTo, Logged.all_append, Logged.all,
      testField, hfound, Option.getD_some]

/-- How the two forms compare on a value. -/
structure FormsCompare (p : Predicates) (shape : Shape) (v : Value Guard) : Prop where
  /-- What is like the shape is similar to it. -/
  similar_of_like : (check p (.isLike shape) v).result = true →
    (check p (.isSimilarTo shape) v).result = true
  /-- What is similar to the shape is like the part of it that is there, and may lack the rest. -/
  similar_iff : (check p (.isSimilarTo shape) v).result = true ↔
    (∃ o, v = .object o) ∧ (check p (.isLike (presentFields p shape v)) v).result = true ∧
      ∀ field ∈ shape, ¬ Has p v field.1 → (check p field.2 .undefined).result = true
  /-- If nothing may be lacking, the forms agree. -/
  agree : (∀ field ∈ shape, ¬ Has p v field.1 → (check p field.2 .undefined).result = false) →
    (check p (.isLike shape) v).result = (check p (.isSimilarTo shape) v).result
  /-- A property that holds `undefined`, an own or an inherited one, is there.  For either form its
  guard decides about `undefined`, after the fields before it and before the fields after it. -/
  undefined_alike : ∀ (o : Object Guard) (k : Key), v = .object o → v.Holds k .undefined →
    Has p v k ∧
      ∀ form ∈ shapeForms, ∀ (g : Guard) (front rest : Shape),
        check p (form (front ++ (k, g) :: rest)) v = (do
          if ← check p (form front) v then
            if ← check p g .undefined then check p (form rest) v else return false
          else return false)

/-- **The forms differ in absent fields alone.** -/
theorem forms_differ_in_absent_fields (p : Predicates) (shape : Shape) (v : Value Guard) :
    FormsCompare p shape v where
  similar_of_like := isSimilarTo_of_isLike
  similar_iff := result_check_isSimilarTo_iff_present shape v
  agree h := by
    rw [Bool.eq_iff_iff]
    exact ⟨isSimilarTo_of_isLike, isLike_of_isSimilarTo h⟩
  undefined_alike o k hv hholds := by
    subst hv
    refine ⟨(has_iff _ k).2 ⟨_, (Value.get?_eq_some_iff _ _ _).2 hholds⟩, ?_⟩
    exact fun form hform g front rest => check_append_of_holds hholds g front rest hform

/-- An own `undefined` hides what is inherited, and is no absent field. -/
example :
    let parent : Object Guard := .mk 600 .ordinary none [(.string "x", .null)]
    let v := Value.object (.mk 601 .ordinary (some parent) [(.string "x", .undefined)])
    (check (fun _ _ => pure false) (.isLike [(.string "x", .classifier .isUndefined)]) v).result =
      true := by decide +kernel

end Guard

end Narrowing
