import Narrowing.Guard.Evaluate
import Narrowing.Proofs.Value.OwnKeys
/-!
# Primitives and their boxes

A truth value, a number or a text can be held by an object made for it.  The properties of the
primitive come from the intrinsic object of its kind and, for a text, from the text; those of
the box come from the content of the object and from the parent that the content chooses.
These are two tables, and this file shows that they are aligned: a primitive and its box list
the same own keys, and a lookup finds the same under every key.

Guards that look at properties only cannot tell the two apart, and guards that take a text, a
number or a key see through the box.
-/

namespace Narrowing

variable {γ : Type}

/-! ### Listed keys of a text -/

namespace Key

lemma precedes_ofNat {m n : Nat} (h : m ≤ n) : (ofNat m).precedes (ofNat n) = true := by
  by_cases hn : n < indexLimit
  · have hm : m < indexLimit := Nat.lt_of_le_of_lt h hn
    rw [ofNat_of_lt hm, ofNat_of_lt hn, precedes, decide_eq_true_eq, UInt32.le_iff_toNat_le,
      toNat_ofNat_of_lt_indexLimit hm, toNat_ofNat_of_lt_indexLimit hn]
    exact h
  · -- a number from the limit on is a text, which no index and no text follows
    rw [ofNat.eq_1 n, if_neg hn]
    unfold ofNat
    split <;> rfl

lemma precedes_ofNat_length (n : Nat) : (ofNat n).precedes length = true := by
  unfold ofNat
  split <;> rfl

end Key

/-- The keys of a sequence come in order, however long it is. -/
lemma sortKeys_sequenceKeys (size : Nat) : sortKeys (sequenceKeys size) = sequenceKeys size := by
  refine List.mergeSort_of_pairwise (List.pairwise_append.2 ⟨?_, List.pairwise_singleton _ _, ?_⟩)
  · refine List.pairwise_map.2 (List.pairwise_lt_range.imp fun h => ?_)
    exact Key.precedes_ofNat (Nat.le_of_lt h)
  · intro k hk other hother
    obtain ⟨n, -, rfl⟩ := List.mem_map.1 hk
    rw [List.mem_singleton.1 hother]
    exact Key.precedes_ofNat_length n

/-! ### Primitives and boxes -/

/-- A primitive that can be boxed. -/
inductive Primitive where
  | boolean (b : Bool)
  | number (x : Double)
  | string (s : String)

namespace Primitive

/-- The primitive as a value. -/
def value : Primitive → Value γ
  | boolean b => .boolean b
  | number x => .number x
  | string s => .string s

/-- The content of the object that boxes it. -/
def content : Primitive → Content γ
  | boolean b => .boxedBoolean b
  | number x => .boxedNumber x
  | string s => .boxedString s

/-- The value that boxes it: an object with the default parent and no properties of its own. -/
def box (q : Primitive) : Build (Value γ) := do
  return .object (← Object.ofContent q.content)

lemma run_box (q : Primitive) (supply : Supply) :
    ((q.box (γ := γ)).run supply).1 =
      .object (.mk supply.identity q.content (some (q.content (γ := γ)).intrinsic.toObject) []) :=
  rfl

end Primitive

namespace Value

/-- Two values have the same properties: the same own keys are listed, and a lookup finds the
same. -/
structure SameProperties (v w : Value γ) : Prop where
  ownKeys : v.ownKeys = w.ownKeys
  get? : ∀ k, v.get? k = w.get? k
  isNullish : v.isNullish = w.isNullish

/-- Two values are or box the same text, number or symbol. -/
structure SameData (v w : Value γ) : Prop where
  string? : v.string? = w.string?
  number? : v.number? = w.number?
  symbol? : v.symbol? = w.symbol?

end Value

namespace Primitive

variable (q : Primitive) (supply : Supply)

lemma getOwn?_box (k : Key) :
    (q.value : Value γ).getOwn? k = (q.box.run supply).1.getOwn? k := by
  rw [run_box]
  cases q with
  | boolean b => rfl
  | number x => rfl
  | string s =>
    show textProperty? s k = (textProperty? s k).or none
    rw [Option.or_none]

/-- The kind of a primitive and the content of its box choose the same intrinsic object. -/
lemma chain_box : (q.value : Value γ).chain = (q.box.run supply).1.chain := by
  rw [run_box]
  cases q <;> rfl

lemma ownKeys_box :
    (q.value : Value γ).ownKeys = ((q.box (γ := γ)).run supply).1.ownKeys := by
  rw [run_box]
  cases q with
  | boolean b => exact (sortKeys_perm []).eq_nil.symm
  | number x => exact (sortKeys_perm []).eq_nil.symm
  | string s =>
    show sequenceKeys s.length = sortKeys (sequenceKeys s.length ++ [])
    rw [List.append_nil, sortKeys_sequenceKeys]

theorem sameProperties_box :
    (q.value : Value γ).SameProperties (q.box.run supply).1 where
  ownKeys := ownKeys_box q supply
  get? k := by rw [Value.get?, Value.get?, getOwn?_box q supply, chain_box q supply]
  isNullish := by cases q <;> rfl

theorem sameData_box : (q.value : Value γ).SameData (q.box.run supply).1 := by
  rw [run_box]
  constructor <;> cases q <;> rfl

end Primitive

/-! ### Guards of properties -/

namespace Value.SameProperties

variable {v w : Value Guard} (h : v.SameProperties w)
include h

lemma hasProperty (k : Key) : v.hasProperty k = w.hasProperty k := by
  -- an own property is found by the lookup, so that the lookup alone decides
  have hfound (u : Value Guard) :
      u.hasProperty k = (!u.isNullish && (u.get? k).isSome) := by
    rw [Value.hasProperty, hasOwn, hasInChain, Value.get?, Option.isSome_or, ← Bool.or_assoc,
      Bool.or_self]
  rw [hfound, hfound, h.isNullish, h.get?]

lemma hasAccepted (k : Key) (test : Value Guard → Bool) :
    v.hasAccepted k test = w.hasAccepted k test := by
  rw [Value.hasAccepted, Value.hasAccepted, h.isNullish, h.get?]

lemma check_hasWith (p : Predicates) (k : Key) (g : Guard) :
    Guard.check p (.hasWith k g) v = Guard.check p (.hasWith k g) w := by
  rw [Guard.check, Guard.check, h.isNullish, h.get?]

lemma keyOf (candidate : Value Guard) :
    Guard.keyOf v candidate = Guard.keyOf w candidate := by
  unfold Guard.keyOf
  simp only [h.hasProperty]

lemma check_classifier {c : Classifier}
    (hc : c ∈ [.isIterable, .isAsyncIterable, .isArrayLike, .isPromise]) :
    c.check v = c.check w := by
  simp only [List.mem_cons, List.not_mem_nil, or_false] at hc
  rcases hc with rfl | rfl | rfl | rfl <;>
    simp only [Classifier.check, Classifier.narrow, View.isSome_accepted, h.hasAccepted]

end Value.SameProperties

/-! ### Guards of texts, numbers and keys -/

namespace Value.SameData

variable {v w : Value Guard} (h : v.SameData w)
include h

lemma key? : v.key? = w.key? := by
  rw [Value.key?, Value.key?, h.string?, h.number?, h.symbol?]

lemma keyOf (container : Value Guard) :
    Guard.keyOf container v = Guard.keyOf container w := by
  rw [Guard.keyOf, Guard.keyOf, h.key?]

lemma narrow_classifier {c : Classifier}
    (hc : c ∈ [.isString, .isNumber, .isNumberString, .isHexString, .isBase64String, .isKey]) :
    c.narrow v = c.narrow w := by
  simp only [List.mem_cons, List.not_mem_nil, or_false] at hc
  rcases hc with rfl | rfl | rfl | rfl | rfl | rfl <;>
    simp only [Classifier.narrow, Classifier.textWith, h.string?, h.number?, h.key?]

end Value.SameData

namespace Guard

/-- What guards of properties, texts, numbers and keys say of two values is the same. -/
structure Indistinguishable (p : Predicates) (v w : Value Guard) : Prop where
  ownKeys : v.ownKeys = w.ownKeys
  get? : ∀ k, v.get? k = w.get? k
  has : ∀ k, check p (.has k) v = check p (.has k) w
  hasWith : ∀ k g, check p (.hasWith k g) v = check p (.hasWith k g) w
  /-- The guards of a method or of the length. -/
  protocols : ∀ c ∈ [Classifier.isIterable, .isAsyncIterable, .isArrayLike, .isPromise],
    check p (.classifier c) v = check p (.classifier c) w
  /-- The guards of texts, numbers and keys give the same view. -/
  views : ∀ c ∈ [Classifier.isString, .isNumber, .isNumberString, .isHexString,
      .isBase64String, .isKey],
    narrow p (.classifier c) v = narrow p (.classifier c) w
  /-- The names that the two values are. -/
  isKeyOf : ∀ container,
    check p (.isKeyOf container) v = check p (.isKeyOf container) w ∧
      narrow p (.isKeyOf container) v = narrow p (.isKeyOf container) w
  /-- The names of the properties of the two values. -/
  container : ∀ candidate,
    narrow p (.isKeyOf v) candidate = narrow p (.isKeyOf w) candidate

/-- **A primitive and its box are not told apart by their properties.**  A truth value, a number
or a text and the object made to box it list the same own keys and give the same under every
key.  So guards of properties have the same verdict and the same events on both, and guards of
texts, numbers and keys have the same view. -/
theorem boxed_indistinguishable (p : Predicates) (q : Primitive) (supply : Supply) :
    Indistinguishable p q.value (q.box.run supply).1 := by
  have hproperties := q.sameProperties_box (γ := Guard) supply
  have hdata := q.sameData_box (γ := Guard) supply
  refine ⟨hproperties.ownKeys, hproperties.get?, fun k => ?_, hproperties.check_hasWith p,
    fun c hc => ?_, fun c hc => ?_, fun container => ⟨?_, ?_⟩, fun candidate => ?_⟩
  · rw [check, check, hproperties.hasProperty]
  · rw [check, check, hproperties.check_classifier hc]
  · rw [narrow, narrow, hdata.narrow_classifier hc]
  · rw [check, check, hdata.keyOf]
  · rw [narrow, narrow, hdata.keyOf]
  · rw [narrow, narrow, hproperties.keyOf]

end Guard

end Narrowing
