import Narrowing.Proofs.Value.FunctionKeys
/-!
# Reading what was put

A builder takes a property under any key, also under one whose property is computed: a
position or the length of a sequence, or the length, the name and the prototype of a class.
A computed property comes first when a property is read, and what is stored under its key is
never looked at.

So the builders keep what was put under every other key, where the last put is read, and
under a computed key nothing that was put is read.  Which keys are computed follows from the
content of an object, and they are the same three for every class.
-/

namespace Narrowing

variable {γ : Type}

/-! ### Objects -/

namespace Content

/-- The key is a position of a sequence or its length. -/
def Computes (c : Content γ) : Key → Prop
  | .index n => n.toNat < c.extent
  | k => k ∈ c.leadingKeys

instance (c : Content γ) : (k : Key) → Decidable (c.Computes k)
  | .index n => inferInstanceAs (Decidable (n.toNat < c.extent))
  | .string s => inferInstanceAs (Decidable (.string s ∈ c.leadingKeys))
  | .symbol s => inferInstanceAs (Decidable (.symbol s ∈ c.leadingKeys))

lemma computes_iff (c : Content γ) (k : Key) :
    c.Computes k ↔ (c.property? k).isSome = true := by
  cases c with
  | array elements =>
    rw [isSome_arrayProperty?_iff]
    cases k <;> simp [Computes, extent, leadingKeys, Key.length]
  | boxedString s =>
    rw [property?, isSome_textProperty?_iff]
    cases k <;> simp [Computes, extent, leadingKeys, Key.length]
  | _ => cases k <;> simp [Computes, extent, leadingKeys, property?]

end Content

namespace Object

lemma getOwn?_of_computes {o : Object γ} {k : Key} (h : o.content.Computes k) :
    ∃ v, o.content.property? k = some v ∧ o.getOwn? k = some v := by
  obtain ⟨v, hv⟩ := Option.isSome_iff_exists.1 ((Content.computes_iff _ k).1 h)
  exact ⟨v, hv, by rw [getOwn?, hv, Option.some_or]⟩

lemma getOwn?_of_not_computes {o : Object γ} {k : Key} (h : ¬ o.content.Computes k) :
    o.getOwn? k = o.properties.find? k := by
  rw [Content.computes_iff, Option.not_isSome_iff_eq_none] at h
  rw [getOwn?, h, Option.none_or]

end Object

/-- The properties of a finished object hold what was put last. -/
lemma find?_properties_build (content : Content γ) (parent : ParentChoice γ)
    (history : List (ObjectStep γ)) (supply : Supply) (k : Key) :
    ((ObjectBuilder.steps { content, parent } history).build.run supply).1.properties.find? k =
      lastPut? k (history.filterMap ObjectStep.put?) := by
  show Table.find? k (ObjectBuilder.steps { content, parent } history).properties = _
  rw [ObjectBuilder.properties_steps rfl, Table.find?_ofPuts]

lemma content_build (content : Content γ) (parent : ParentChoice γ)
    (history : List (ObjectStep γ)) (supply : Supply) :
    ((ObjectBuilder.steps { content, parent } history).build.run supply).1.content = content :=
  ObjectBuilder.content_steps _ history

/-! ### Classes -/

namespace Function

lemma getOwn?_of_not_mem_computedKeys {f : Function γ} {k : Key} (h : k ∉ f.computedKeys) :
    f.getOwn? k = f.statics.find? k := by
  rw [mem_computedKeys_iff, not_or, not_or] at h
  obtain ⟨hlength, hname, hprototype⟩ := h
  unfold getOwn?
  split
  · exact absurd rfl hlength
  · exact absurd rfl hname
  · -- a function without a prototype stores a property of that name as any other
    have hno : f.isConstructor = false := by simpa using hprototype
    rw [prototype_eq_none hno, Option.map_none, Option.none_or]
  · rfl

lemma computedKeys_eq_of_prototype {f : Function γ} {proto : Object γ}
    (h : f.prototype = some proto) :
    f.computedKeys = [Key.length, .string "name", .string "prototype"] := by
  simp [computedKeys, isConstructor, h]

end Function

/-- The properties of a finished class hold what was put last. -/
lemma find?_statics_ofClass (name : String) (history : List (ClassStep γ)) (supply : Supply)
    (k : Key) :
    ((Function.ofClass name history).run supply).1.statics.find? k =
      lastPut? k (history.filterMap ClassStep.staticPut?) := by
  have hstatics := (Function.Origin.made_ofClass name history supply).statics
  rw [hstatics]
  exact Table.find?_ofPuts k _

/-- **The last put is read, unless the key is computed.**  Whatever content an object is built
from and whatever steps build it, a key that is neither a position nor the length of its
content reads what was put last under it, and any other key reads the computed property.  A
class reads what was put last under every key but `length`, `name` and `prototype`, and under
these its length, its name and its prototype. -/
theorem last_put_is_read_unless_computed :
    (∀ (content : Content γ) (parent : ParentChoice γ) (history : List (ObjectStep γ))
        (supply : Supply) (k : Key),
      let o := ((ObjectBuilder.steps { content, parent } history).build.run supply).1
      (¬ content.Computes k → o.getOwn? k = lastPut? k (history.filterMap ObjectStep.put?)) ∧
        (content.Computes k → ∃ v, content.property? k = some v ∧ o.getOwn? k = some v)) ∧
    ∀ (name : String) (history : List (ClassStep γ)) (supply : Supply),
      let f := ((Function.ofClass name history).run supply).1
      (∀ k, k ∉ [Key.length, .string "name", .string "prototype"] →
        f.getOwn? k = lastPut? k (history.filterMap ClassStep.staticPut?)) ∧
      f.getOwn? .length = some (.number (.ofNat f.length.toNat)) ∧
      f.getOwn? (.string "name") = some (.string f.name) ∧
      ∃ proto, f.prototype = some proto ∧
        f.getOwn? (.string "prototype") = some (.object proto) := by
  refine ⟨?_, ?_⟩
  · intro content parent history supply k o
    have hcontent : o.content = content := content_build content parent history supply
    rw [← hcontent]
    refine ⟨fun hk => ?_, Object.getOwn?_of_computes⟩
    rw [Object.getOwn?_of_not_computes hk]
    exact find?_properties_build content parent history supply k
  · intro name history supply f
    obtain ⟨proto, hproto, -⟩ := prototype_ofClass name history supply
    refine ⟨fun k hk => ?_, rfl, rfl, proto, hproto, ?_⟩
    · rw [← Function.computedKeys_eq_of_prototype hproto] at hk
      rw [Function.getOwn?_of_not_mem_computedKeys hk]
      exact find?_statics_ofClass name history supply k
    · have hread : f.getOwn? (.string "prototype") =
          (f.prototype.map Value.object).or (f.statics.find? (.string "prototype")) := rfl
      rw [hread, hproto, Option.map_some, Option.some_or]

/-- A named property of an array, put twice, reads what was put the second time. -/
theorem last_put_is_read_of_tagged_array :
    let history : List (ObjectStep Unit) :=
      [.property (.string "tag") .null, .property (.index 1) .null,
        .property (.string "tag") (.boolean true)]
    let o := ((ObjectBuilder.steps { content := .array [.undefined] } history).build.run {}).1
    o.getOwn? (.string "tag") = some (.boolean true) ∧ o.getOwn? (.index 1) = some .null := by
  intro history o
  have hread := last_put_is_read_unless_computed.1 (.array [.undefined]) .intrinsic history {}
  exact ⟨(hread (.string "tag")).1 (by decide), (hread (.index 1)).1 (by decide)⟩

/-- What is put under a position of an array, or under the name of a class, is not read. -/
theorem put_is_hidden_by_computed :
    let history : List (ObjectStep Unit) := [.property (.ofString "0") (.boolean true)]
    let o := ((ObjectBuilder.steps { content := .array [.null] } history).build.run {}).1
    let classHistory : List (ClassStep Unit) := [.static (.string "name") .null]
    let f := ((Function.ofClass "A" classHistory).run {}).1
    (¬ ∀ k v, lastPut? k (history.filterMap ObjectStep.put?) = some v → o.getOwn? k = some v) ∧
      ¬ ∀ k v, lastPut? k (classHistory.filterMap ClassStep.staticPut?) = some v →
        f.getOwn? k = some v := by
  intro history o classHistory f
  have hzero : Key.ofString "0" = .index 0 := by decide +kernel
  refine ⟨fun h => ?_, fun h => ?_⟩
  · have hread : o.getOwn? (.index 0) = some (.boolean true) :=
      h (.index 0) (.boolean true) (by rw [← hzero]; rfl)
    have hcomputed : o.getOwn? (.index 0) = some .null := rfl
    exact nomatch hcomputed.symm.trans hread
  · have hread : f.getOwn? (.string "name") = some .null := h (.string "name") .null rfl
    have hcomputed : f.getOwn? (.string "name") = some (.string "A") := rfl
    exact nomatch hcomputed.symm.trans hread

end Narrowing
