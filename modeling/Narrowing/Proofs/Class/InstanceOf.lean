import Narrowing.Guard.Evaluate
import Narrowing.Proofs.Class.Instance
/-!
# Instances and their classes

Whether an object counts as an instance of a function is decided by the identities of the
objects that it inherits from.  For an instance those are the prototypes of a lineage, and no
two functions have the same prototype, so the answer is the one that the parents of the
classes suggest: it is an instance of a function exactly if that function is reached from its
own by going to the parent again and again, as long as the parent is a constructor.
-/

namespace Narrowing

variable {γ : Type}

/-! ### Inheriting from a prototype -/

lemma Object.inheritsFrom_iff (o a : Object γ) :
    o.inheritsFrom a = true ↔ ∃ b ∈ o.ancestors, b.identity = a.identity := by
  simp [inheritsFrom, same]

namespace Session

variable {made : List (Definition γ)} {supply : Supply} {e : Definition γ}

/-- The intrinsic object is no prototype of a function that was made. -/
lemma identity_root_ne (h : Session made supply) (he : e ∈ made) {proto : Object γ}
    (hproto : e.prototype = some proto) :
    (Intrinsic.root : Object γ).identity ≠ proto.identity := by
  intro heq
  have hle := (h.owns_bounds he (Definition.owns_prototype hproto)).1
  have hroot : (Intrinsic.root : Object γ).identity = 0 := rfl
  rw [← heq, hroot] at hle
  exact absurd hle (by decide)

/-- An instance inherits from the prototypes of the functions that are reached and from no
other. -/
lemma inheritsFrom_instantiate_iff (h : Session made supply) {f : Function γ}
    (hf : Known made f) (he : e ∈ made) {proto : Object γ} (hproto : e.prototype = some proto)
    (puts : List (Key × Value γ)) (s : Supply) :
    ((f.instantiate puts).run s).1.inheritsFrom proto = true ↔
      f.isConstructor = true ∧ Relation.ReflTransGen (Extends made) f e.function := by
  rw [Object.inheritsFrom_iff]
  cases hconstructor : f.isConstructor with
  | false =>
    rw [Function.ancestors_instantiate hconstructor]
    simp [h.identity_root_ne he hproto]
  | true =>
    obtain ⟨d, hd, rfl⟩ := hf hconstructor
    rw [h.ancestors_instantiate hd hconstructor, ← h.mem_lineage_iff he d hd]
    constructor
    · rintro ⟨a, ha, hidentity⟩
      rcases List.mem_append.1 ha with ha | ha
      · -- the prototype belongs to one definition only
        obtain ⟨e', he', ha⟩ := List.mem_filterMap.1 ha
        have howns : e'.Owns proto.identity := hidentity ▸ Definition.owns_prototype ha
        rw [← h.eq_of_owns (mem_of_mem_lineage he') he howns (Definition.owns_prototype hproto)]
        exact ⟨rfl, he'⟩
      · rw [List.mem_singleton.1 ha] at hidentity
        exact absurd hidentity (h.identity_root_ne he hproto)
    · rintro ⟨-, hmem⟩
      exact ⟨proto, List.mem_append_left _ (List.mem_filterMap.2 ⟨e, hmem, hproto⟩), rfl⟩

end Session

/-! ### What the guard accepts -/

namespace Guard

lemma check_isInstanceOf_object_iff (p : Predicates) (c : Function Guard) (o : Object Guard) :
    (check p (.isInstanceOf c) (.object o)).result = true ↔
      ∃ proto, c.prototype = some proto ∧ o.inheritsFrom proto = true := by
  rw [check, Logged.result_pure]
  unfold isInstance
  cases c.prototype <;> simp

lemma check_isInstanceOf_of_not_constructor (p : Predicates) {c : Function Guard}
    (hc : c.isConstructor = false) (v : Value Guard) :
    (check p (.isInstanceOf c) v).result = false := by
  simp [check, isInstance, Function.prototype_eq_none hc]

variable {made : List (Definition Guard)} {supply : Supply} {f c : Function Guard}

/-- **Instances of a class.**  Among functions that were made one after the other, an instance
of a function with any properties passes as an instance of another exactly if the first is a
constructor and the other is reached from it along parents that are constructors.  Nothing
passes as an instance of a function that is no constructor.  Constructors that are the same
one are equal. -/
theorem passes_isInstanceOf_iff_reached (session : Session made supply) (hf : Known made f)
    (hc : Known made c) (p : Predicates) (puts : List (Key × Value Guard)) (s : Supply) :
    let o := ((f.instantiate puts).run s).1
    ((check p (.isInstanceOf c) (.object o)).result = true ↔
        f.isConstructor = true ∧ Relation.ReflTransGen (Extends made) f c) ∧
      (c.isConstructor = false → ∀ v, (check p (.isInstanceOf c) v).result = false) ∧
      (f.isConstructor = true → c.isConstructor = true → (f.same c = true ↔ f = c)) := by
  intro o
  refine ⟨?_, ?_, ?_⟩
  · rw [check_isInstanceOf_object_iff]
    constructor
    · rintro ⟨proto, hproto, hinherits⟩
      obtain ⟨e, he, rfl⟩ := hc (Option.isSome_iff_exists.2 ⟨proto, hproto⟩)
      exact (session.inheritsFrom_instantiate_iff hf he hproto puts s).1 hinherits
    · rintro ⟨hconstructor, hreach⟩
      have hconstructor' := Extends.isConstructor_of_reflTransGen hreach hconstructor
      obtain ⟨proto, hproto⟩ := Option.isSome_iff_exists.1 hconstructor'
      obtain ⟨e, he, rfl⟩ := hc hconstructor'
      exact ⟨proto, hproto, (session.inheritsFrom_instantiate_iff hf he hproto puts s).2
        ⟨hconstructor, hreach⟩⟩
  · exact fun hno v => check_isInstanceOf_of_not_constructor p hno v
  · intro hconstructor hconstructor'
    obtain ⟨d, hd, rfl⟩ := hf hconstructor
    obtain ⟨e, he, rfl⟩ := hc hconstructor'
    refine ⟨fun hsame => congrArg Definition.function (session.eq_of_same hd he hsame), ?_⟩
    intro heq
    rw [heq]
    exact beq_self_eq_true _

/-- An instance of a class that extends another one passes as an instance of the other. -/
theorem passes_isInstanceOf_animal :
    let animal : Function.Origin Guard := .ofClass "Animal" [.method "speak"]
    let dog : Function.Origin Guard :=
      .ofClass "Dog" [.extends (animal.make.run {}).1, .length 1]
    let dogClass := (dog.make.run (animal.make.run {}).2).1
    let rex := ((dogClass.instantiate [(.string "name", .string "Rex")]).run {}).1
    (check (fun _ _ => pure true) (.isInstanceOf (animal.make.run {}).1)
      (.object rex)).result = true := by
  intro animal dog dogClass rex
  have hfirst : Session [animal.define {}] (animal.make.run {}).2 :=
    Session.start.make animal fun _ hparent => nomatch hparent
  have hanimal : Known [animal.define {}] (animal.make.run {}).1 := .newest (animal.define {}) []
  have hsession := hfirst.make dog fun f hparent => Option.some.inj hparent ▸ hanimal
  refine (passes_isInstanceOf_iff_reached hsession (.newest _ _) (hanimal.older _) _ _ _).1.2
    ⟨rfl, ?_⟩
  exact .single ⟨_, List.mem_cons_self, rfl, rfl⟩

/-- The other way round it does not. -/
example :
    let animal : Function.Origin Guard := .ofClass "Animal" [.method "speak"]
    let dog : Function.Origin Guard := .ofClass "Dog" [.extends (animal.make.run {}).1]
    let dogClass := (dog.make.run (animal.make.run {}).2).1
    let someone := (((animal.make.run {}).1.instantiate []).run {}).1
    (check (fun _ _ => pure true) (.isInstanceOf dogClass) (.object someone)).result = false :=
  rfl

end Guard

end Narrowing
