import Narrowing.Proofs.Value.OwnKeys
import Narrowing.Proofs.Value.Origin
/-!
# Own keys of functions

A function has the computed properties `length` and `name`, a constructor also `prototype`,
and a class has the properties that it was given.  The listed keys are those of both kinds,
put together without a look at whether they overlap.  So they are the keys of the own
properties and they are in order, but a key of both kinds is listed twice.

The law of own keys therefore holds of a function exactly if it was given no property under
a computed key.
-/

namespace Narrowing

variable {γ : Type}

namespace Function

/-- The keys of the computed properties. -/
def computedKeys (f : Function γ) : List Key :=
  [Key.length, .string "name"] ++ if f.isConstructor then [.string "prototype"] else []

lemma ownKeys_eq (f : Function γ) :
    f.ownKeys = sortKeys (f.computedKeys ++ f.statics.keys) := rfl

lemma mem_computedKeys_iff (f : Function γ) (k : Key) :
    k ∈ f.computedKeys ↔
      k = .length ∨ k = .string "name" ∨ k = .string "prototype" ∧ f.isConstructor = true := by
  cases h : f.isConstructor <;> simp [computedKeys, h]

lemma nodup_computedKeys (f : Function γ) : f.computedKeys.Nodup := by
  cases h : f.isConstructor <;> simp [computedKeys, h, Key.length]

lemma isText_of_mem_computedKeys {f : Function γ} {k : Key} (hk : k ∈ f.computedKeys) :
    k.isText = true := by
  rcases (mem_computedKeys_iff f k).1 hk with rfl | rfl | ⟨rfl, -⟩ <;> rfl

/-- An own property is a computed one or one that the function was given. -/
lemma isSome_getOwn?_iff (f : Function γ) (k : Key) :
    (f.getOwn? k).isSome = true ↔ k ∈ f.computedKeys ∨ k ∈ f.statics.keys := by
  rw [mem_computedKeys_iff, ← Table.isSome_find?_iff]
  unfold getOwn?
  split
  · simp [Key.length]
  · simp
  · cases h : f.prototype <;> simp [h, isConstructor, Key.length]
  · next hlength hname hprototype =>
    have hl : k ≠ .length := fun h => hlength h
    have hn : k ≠ .string "name" := fun h => hname h
    have hp : k ≠ .string "prototype" := fun h => hprototype h
    simp [hl, hn, hp]

lemma mem_ownKeys_iff (f : Function γ) (k : Key) :
    k ∈ f.ownKeys ↔ (Value.function f).hasOwn k = true := by
  rw [ownKeys_eq, (sortKeys_perm _).mem_iff, List.mem_append]
  exact (isSome_getOwn?_iff f k).symm

section

variable {f : Function γ} (hkeys : f.statics.keys.Nodup)
include hkeys

/-- No key is listed twice exactly if the two kinds of keys do not overlap. -/
lemma nodup_ownKeys_iff :
    f.ownKeys.Nodup ↔ ∀ k ∈ f.computedKeys, k ∉ f.statics.keys := by
  rw [ownKeys_eq, (sortKeys_perm _).nodup_iff, List.nodup_append']
  exact ⟨fun h => h.2.2, fun h => ⟨nodup_computedKeys f, hkeys, h⟩⟩

/-- The listed keys are in order, whether or not a key comes twice. -/
lemma exists_ownKeys_eq :
    ∃ indices : List UInt32, indices.Pairwise (· < ·) ∧
      f.ownKeys = indices.map .index ++
        (f.computedKeys ++ f.statics.keys.filter Key.isText) ++
        f.statics.keys.filter Key.isSymbol := by
  have htexts : f.computedKeys.filter Key.isText = f.computedKeys :=
    List.filter_eq_self.2 fun k hk => isText_of_mem_computedKeys hk
  have hsymbols : f.computedKeys.filter Key.isSymbol = [] :=
    List.filter_eq_nil_iff.2 fun k hk => by
      have := isText_of_mem_computedKeys hk
      cases k <;> simp_all [Key.isText, Key.string?, Key.isSymbol]
  have hindices : f.computedKeys.filterMap Key.index? = [] :=
    List.filterMap_eq_nil_iff.2 fun k hk => by
      have := isText_of_mem_computedKeys hk
      cases k <;> simp_all [Key.isText, Key.string?, Key.index?]
  have hnodup : ((f.computedKeys ++ f.statics.keys).filterMap Key.index?).Nodup := by
    rw [List.filterMap_append, hindices]
    exact nodup_filterMap_index hkeys
  obtain ⟨indices, hascending, hsorted⟩ := sortKeys_eq hnodup
  refine ⟨indices, hascending, ?_⟩
  rw [ownKeys_eq, hsorted, List.filter_append, List.filter_append, htexts, hsymbols]
  rfl

/-- The law of own keys holds exactly if the two kinds of keys do not overlap. -/
lemma ownKeysLaw_iff :
    OwnKeysLaw f.ownKeys (Value.function f).hasOwn f.computedKeys f.statics.keys ↔
      ∀ k ∈ f.computedKeys, k ∉ f.statics.keys := by
  refine ⟨fun h => (nodup_ownKeys_iff hkeys).1 h.nodup, fun h => ?_⟩
  refine ⟨(nodup_ownKeys_iff hkeys).2 h, mem_ownKeys_iff f, ?_⟩
  obtain ⟨indices, hascending, heq⟩ := exists_ownKeys_eq hkeys
  refine ⟨indices, hascending, heq.trans ?_⟩
  -- no key that the function was given is a leading one
  have hinserted : f.statics.keys.filter (fun k => k.isText && !f.computedKeys.contains k) =
      f.statics.keys.filter Key.isText := by
    refine List.filter_congr fun k hk => ?_
    have hnot : k ∉ f.computedKeys := fun hc => h k hc hk
    simp [hnot]
  rw [hinserted]

end

end Function

/-- **The own keys of functions.**  Whichever way a function is made, its listed own keys are
the keys of its own properties, and they are in order with the computed ones first among the
texts.  They obey the law of own keys, so that none is listed twice, exactly if the function
was given no property under a computed key. -/
theorem function_own_keys_obey_law_iff (origin : Function.Origin γ) (supply : Supply) :
    let f := (origin.make.run supply).1
    (OwnKeysLaw f.ownKeys (Value.function f).hasOwn f.computedKeys origin.staticKeys ↔
        ∀ k ∈ f.computedKeys, k ∉ origin.staticKeys) ∧
      (∀ k, k ∈ f.ownKeys ↔ (Value.function f).hasOwn k = true) ∧
      ∃ indices : List UInt32, indices.Pairwise (· < ·) ∧
        f.ownKeys = indices.map .index ++
          (f.computedKeys ++ origin.staticKeys.filter Key.isText) ++
          origin.staticKeys.filter Key.isSymbol := by
  intro f
  have hstatics : f.statics.keys = origin.staticKeys := origin.keys_statics_make supply
  have hkeys : f.statics.keys.Nodup := hstatics ▸ nodup_insertedKeys _ _
  rw [← hstatics]
  exact ⟨Function.ownKeysLaw_iff hkeys, Function.mem_ownKeys_iff f,
    Function.exists_ownKeys_eq hkeys⟩

/-- A class with a static property under a key of its own obeys the law. -/
theorem function_own_keys_obey_law_of_config :
    let f := ((Function.ofClass (γ := Unit) "Config"
      [.static (.string "DEFAULT") .null]).run {}).1
    OwnKeysLaw f.ownKeys (Value.function f).hasOwn f.computedKeys [.string "DEFAULT"] :=
  (function_own_keys_obey_law_iff
    (.ofClass "Config" [.static (.string "DEFAULT") .null]) {}).1.2 (by decide)

/-- A class with a static property `length` lists that key twice. -/
theorem function_own_keys_repeat_static_length :
    let f := ((Function.ofClass (γ := Unit) "A" [.static .length .null]).run {}).1
    f.ownKeys = [.length, .string "name", .string "prototype", .length] ∧
      ¬ OwnKeysLaw f.ownKeys (Value.function f).hasOwn f.computedKeys [.length] := by
  intro f
  -- the keys are all texts, so that the sort leaves them as they are
  have hkeys : f.ownKeys = [.length, .string "name", .string "prototype", .length] :=
    List.mergeSort_of_pairwise (by decide)
  refine ⟨hkeys, fun h => ?_⟩
  have hnodup := h.nodup
  rw [hkeys] at hnodup
  revert hnodup
  decide

end Narrowing
