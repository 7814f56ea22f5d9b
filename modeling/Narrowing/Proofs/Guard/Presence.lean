import Mathlib.Tactic.TFAE
import Narrowing.Guard.Shape
import Narrowing.Proofs.Value.FunctionKeys
/-!
# Presence of a property

Whether a value has a property is asked in several ways: by the test of presence, by guards of
the property alone, by guards that also look at what it holds, by a shape of one field, and by
a guard that fixes the value and takes the key.  They look at own properties, at the chain, or
at both, and each sets `undefined` and `null` apart in its own place.

They all come to one fact.  A value has a property exactly if the property is an own one of
the value or of an object on its chain, where the chain is what `Value.Inherits` says: it
begins with the intrinsic object of a kind, or with the parent of an object, and goes on from
parent to parent.
-/

namespace Narrowing

variable {γ : Type}

/-! ### The chain -/

namespace Value

/-- The kind of a value that inherits from an intrinsic object on account of it. -/
def kind? : Value γ → Option Intrinsic
  | boolean _ => some .boolean
  | number _ => some .number
  | bigint _ => some .bigint
  | string _ => some .string
  | symbol _ => some .symbol
  | function _ => some .function
  | undefined => none
  | null => none
  | object _ => none

/-- An object is on the chain of a value. -/
inductive Inherits (v : Value γ) : Object γ → Prop
  /-- The intrinsic object of the kind of the value. -/
  | intrinsic {i : Intrinsic} : v.kind? = some i → Inherits v i.toObject
  /-- The parent of the value, which is an object. -/
  | parent {o a : Object γ} : v = .object o → o.parent = some a → Inherits v a
  /-- The parent of an object on the chain. -/
  | further {o a : Object γ} : Inherits v o → o.parent = some a → Inherits v a

end Value

namespace Object

lemma ancestors_of_parent {o a : Object γ} (h : o.parent = some a) :
    o.ancestors = a :: a.ancestors := by
  obtain ⟨identity, content, parent, properties⟩ := o
  obtain rfl : parent = some a := h
  rfl

/-- The parent of an ancestor is an ancestor. -/
lemma mem_ancestors_of_parent {o b a : Object γ} (hb : b ∈ o.ancestors)
    (h : b.parent = some a) : a ∈ o.ancestors := by
  induction o using Object.ancestors.induct with
  | case1 => exact absurd hb List.not_mem_nil
  | case2 identity content parent properties ih =>
    rcases List.mem_cons.1 hb with rfl | hb
    · rw [ancestors, ancestors_of_parent h]
      exact List.mem_cons_of_mem _ List.mem_cons_self
    · exact List.mem_cons_of_mem _ (ih hb)

end Object

namespace Value

lemma chain_of_parent {v : Value γ} {o : Object γ} (h : v.parent = some o) :
    v.chain = o :: o.ancestors := by
  rw [chain, h]

lemma parent_of_kind? {v : Value γ} {i : Intrinsic} (h : v.kind? = some i) :
    v.parent = some i.toObject := by
  cases v with
  | undefined => exact nomatch h
  | null => exact nomatch h
  | object o => exact nomatch h
  | _ => obtain rfl := Option.some.inj h; rfl

/-- The ancestors of an object on the chain are on the chain. -/
lemma inherits_of_mem_ancestors {v : Value γ} {o a : Object γ} (ho : v.Inherits o)
    (ha : a ∈ o.ancestors) : v.Inherits a := by
  induction o using Object.ancestors.induct with
  | case1 => exact absurd ha List.not_mem_nil
  | case2 identity content parent properties ih =>
    have hparent : v.Inherits parent := .further ho rfl
    rcases List.mem_cons.1 ha with rfl | ha
    · exact hparent
    · exact ih hparent ha

lemma inherits_of_parent {v : Value γ} {o : Object γ} (h : v.parent = some o) :
    v.Inherits o := by
  cases v with
  | undefined => exact nomatch h
  | null => exact nomatch h
  | object b => exact .parent rfl h
  | _ => obtain rfl := Option.some.inj h; exact .intrinsic rfl

/-- The chain that a lookup goes along holds the objects that the value inherits from. -/
theorem mem_chain_iff (v : Value γ) (o : Object γ) : o ∈ v.chain ↔ v.Inherits o := by
  constructor
  · intro ho
    cases hparent : v.parent with
    | none =>
      rw [chain, hparent] at ho
      exact absurd ho List.not_mem_nil
    | some a =>
      rw [chain_of_parent hparent] at ho
      rcases List.mem_cons.1 ho with rfl | ho
      · exact inherits_of_parent hparent
      · exact inherits_of_mem_ancestors (inherits_of_parent hparent) ho
  · intro ho
    induction ho with
    | intrinsic hkind =>
      rw [chain_of_parent (parent_of_kind? hkind)]
      exact List.mem_cons_self
    | @parent b a hv hparent =>
      have hchain : v.parent = some a := by rw [hv]; exact hparent
      rw [chain_of_parent hchain]
      exact List.mem_cons_self
    | @further b a _ hparent ih =>
      cases hfirst : v.parent with
      | none =>
        rw [chain, hfirst] at ih
        exact absurd ih List.not_mem_nil
      | some first =>
        rw [chain_of_parent hfirst] at ih ⊢
        rcases List.mem_cons.1 ih with rfl | hmem
        · rw [Object.ancestors_of_parent hparent]
          exact List.mem_cons_of_mem _ List.mem_cons_self
        · exact List.mem_cons_of_mem _ (Object.mem_ancestors_of_parent hmem hparent)

/-! ### Lookups -/

/-- A property is found exactly if the value or an object on its chain has it as its own. -/
lemma hasInChain_iff (v : Value γ) (k : Key) :
    v.hasInChain k = true ↔
      v.hasOwn k = true ∨ ∃ o, v.Inherits o ∧ o.hasOwn k = true := by
  rw [hasInChain, get?, Option.isSome_or, Bool.or_eq_true, List.findSome?_isSome_iff]
  refine or_congr_right ⟨?_, ?_⟩
  · rintro ⟨o, ho, hk⟩
    exact ⟨o, (mem_chain_iff v o).1 ho, hk⟩
  · rintro ⟨o, ho, hk⟩
    exact ⟨o, (mem_chain_iff v o).2 ho, hk⟩

lemma hasInChain_of_isNullish {v : Value γ} (h : v.isNullish = true) (k : Key) :
    v.hasInChain k = false := by
  cases v with
  | undefined => rfl
  | null => rfl
  | _ => exact nomatch h

/-- The look at own properties adds nothing to the lookup, and nothing is found on `undefined`
and `null` anyway. -/
lemma hasProperty_eq (v : Value γ) (k : Key) : v.hasProperty k = v.hasInChain k := by
  cases hnullish : v.isNullish with
  | true =>
    rw [hasInChain_of_isNullish hnullish, hasProperty, hnullish]
    rfl
  | false =>
    rw [hasProperty, hnullish, Bool.not_false, Bool.true_and, Bool.or_eq_right_iff_imp]
    exact fun hown => (hasInChain_iff v k).2 (.inl hown)

/-! ### Listed keys -/

/-- The number of positions of a text or a sequence. -/
def extent : Value γ → Nat
  | string s => s.length
  | object o => o.content.extent
  | _ => 0

/-- The own keys of a value are the keys of its own properties. -/
lemma mem_ownKeys_iff {v : Value γ} (h : v.extent ≤ Key.indexLimit) (k : Key) :
    k ∈ v.ownKeys ↔ v.hasOwn k = true := by
  cases v with
  | string s => exact (ownKeysLaw_string h).mem_iff k
  | function f => exact f.mem_ownKeys_iff k
  | object o => exact (Object.mem_ownKeys_iff k).trans (Object.hasOwn_iff h k).symm
  | _ => simp [ownKeys, hasOwn, getOwn?]

end Value

/-! ### Guards of presence -/

namespace Guard

variable {p : Predicates} {g : Guard}

/-- The guard accepts every value. -/
def AcceptsAll (p : Predicates) (g : Guard) : Prop := ∀ v, (check p g v).result = true

lemma result_check_has (p : Predicates) (k : Key) (v : Value Guard) :
    (check p (.has k) v).result = v.hasProperty k := rfl

/-- A guarded property is one that is found and accepted. -/
lemma result_check_hasWith_iff (k : Key) (v : Value Guard) :
    (check p (.hasWith k g) v).result = true ↔
      ∃ found, v.get? k = some found ∧ (check p g found).result = true := by
  rw [check]
  cases hnullish : v.isNullish with
  | true =>
    have hnone : v.get? k = none := by
      rw [← Option.not_isSome_iff_eq_none, ← Value.hasInChain,
        Value.hasInChain_of_isNullish hnullish]
      exact Bool.false_ne_true
    simp [hnone]
  | false => cases v.get? k <;> simp

/-- With a guard that accepts every value, a guarded property is a property that is found. -/
lemma result_check_hasWith (hg : g.AcceptsAll p) (k : Key) (v : Value Guard) :
    (check p (.hasWith k g) v).result = v.hasInChain k := by
  rw [Bool.eq_iff_iff, result_check_hasWith_iff, Value.hasInChain, Option.isSome_iff_exists]
  constructor
  · rintro ⟨found, hfound, -⟩
    exact ⟨found, hfound⟩
  · rintro ⟨found, hfound⟩
    exact ⟨found, hfound, hg found⟩

/-- With a guard that accepts every value, an object is like the shape of one field exactly if
the field is found. -/
lemma result_check_isLike_field (hg : g.AcceptsAll p) (k : Key) (o : Object Guard) :
    (check p (.isLike (Shape.ofFields [(k, g)])) (.object o)).result =
      (Value.object o).hasInChain k := by
  show (checkPresent p [(k, .erased g)] (.object o)).result = _
  rw [checkPresent, Value.hasInChain]
  cases hfield : (Value.object o).get? k with
  | none => rfl
  | some field =>
    have hfield : (check p (.erased g) field).result = true := hg field
    simp [hfield, checkPresent]

lemma result_check_isLike_of_ne_object {v : Value Guard} (h : ∀ o, v ≠ .object o)
    (shape : Shape) : (check p (.isLike shape) v).result = false := by
  cases v with
  | object o => exact absurd rfl (h o)
  | _ => rfl

lemma result_narrow_isKeyOf_iff (container w : Value Guard) (k : Key) :
    (narrow p (.isKeyOf container) w).result = some (.key k) ↔
      w.key? = some k ∧ container.hasProperty k = true := by
  show keyOf container w = some (.key k) ↔ _
  unfold keyOf
  cases hkey : w.key? with
  | none => simp
  | some key =>
    by_cases hproperty : container.hasProperty key = true
    · simp only [Option.bind_some, hproperty, if_true, Option.some.injEq, View.key.injEq]
      constructor
      · rintro rfl
        exact ⟨rfl, hproperty⟩
      · exact fun h => h.1
    · simp only [Option.bind_some, hproperty]
      constructor
      · exact fun h => nomatch h
      · rintro ⟨h, hk⟩
        rw [Option.some.inj h] at hproperty
        exact absurd hk hproperty

/-- All ways to ask whether a value has a property give one answer. -/
structure PresenceAgrees (p : Predicates) (g : Guard) (v : Value Guard) (k : Key) : Prop where
  routes : List.TFAE [
    v.hasProperty k = true,
    (check p (.has k) v).result = true,
    (check p (.hasWith k g) v).result = true,
    v.hasInChain k = true,
    v.hasOwn k = true ∨ ∃ o, v.Inherits o ∧ o.hasOwn k = true]
  /-- Where no sequence has more positions than there are indices, the keys are the listed
  ones. -/
  listed : v.extent ≤ Key.indexLimit →
    (∀ o, v.Inherits o → (Value.object o).extent ≤ Key.indexLimit) →
    (v.hasProperty k = true ↔ k ∈ v.ownKeys ∨ ∃ o, v.Inherits o ∧ k ∈ o.ownKeys)
  /-- A shape of one field asks the same of objects, and accepts nothing else. -/
  shape : (check p (.isLike (Shape.ofFields [(k, g)])) v).result = true ↔
    (∃ o, v = .object o) ∧ v.hasProperty k = true
  /-- The other way round, a value is accepted if it names a property of the container. -/
  isKeyOf : ∀ w, (narrow p (.isKeyOf v) w).result = some (.key k) ↔
    w.key? = some k ∧ (check p (.has k) v).result = true
  nullish : v.isNullish = true → v.hasProperty k = false

/-- **The ways to ask for a property agree.**  For every value, key and guard that accepts
everything, the test of presence, the guards of the property, the lookup and the look at the
own properties along the chain give one answer, and so do a shape of one field on objects and
the guard of the names of a container.  The answer is negative for `undefined` and `null`. -/
theorem presence_routes_agree (p : Predicates) {g : Guard} (hg : g.AcceptsAll p)
    (v : Value Guard) (k : Key) : PresenceAgrees p g v k where
  routes := by
    rw [result_check_has, result_check_hasWith hg, Value.hasProperty_eq]
    tfae_have 4 ↔ 5 := Value.hasInChain_iff v k
    tfae_finish
  listed hv hchain := by
    rw [Value.hasProperty_eq, Value.hasInChain_iff, Value.mem_ownKeys_iff hv]
    refine or_congr_right (exists_congr fun o => and_congr_right fun ho => ?_)
    exact (Value.mem_ownKeys_iff (hchain o ho) k).symm
  shape := by
    rw [Value.hasProperty_eq]
    by_cases hobject : ∃ o, v = .object o
    · obtain ⟨o, rfl⟩ := hobject
      rw [result_check_isLike_field hg]
      exact ⟨fun h => ⟨⟨o, rfl⟩, h⟩, fun h => h.2⟩
    · rw [result_check_isLike_of_ne_object (not_exists.1 hobject)]
      exact ⟨fun h => absurd h Bool.false_ne_true, fun h => absurd h.1 hobject⟩
  isKeyOf w := by
    rw [result_check_has]
    exact result_narrow_isKeyOf_iff v w k
  nullish h := by
    rw [Value.hasProperty_eq, Value.hasInChain_of_isNullish h]

/-- The negation of the guard that rejects everything accepts everything; with it, a method of
all objects is found on a number through its kind, and on an array it names a property. -/
theorem presence_routes_agree_of_inherited :
    let p : Predicates := fun _ _ => pure false
    let g : Guard := .not (.classifier .isAny)
    let list := Value.object ((Object.array [.null]).run {}).1
    g.AcceptsAll p ∧
      (check p (.hasWith (.string "valueOf") g) (.number .zero)).result = true ∧
      (narrow p (.isKeyOf list) (.string "valueOf")).result =
        some (.key (.string "valueOf")) := by
  intro p g list
  have hg : g.AcceptsAll p := fun _ => rfl
  have hnumber := presence_routes_agree p hg (.number .zero) (.string "valueOf")
  have hlist := presence_routes_agree p hg list (.string "valueOf")
  refine ⟨hg, (hnumber.routes.out 2 3).2 (by decide +kernel), ?_⟩
  exact (hlist.isKeyOf (.string "valueOf")).2
    ⟨by decide +kernel, (hlist.routes.out 1 3).2 (by decide +kernel)⟩

end Guard

end Narrowing
