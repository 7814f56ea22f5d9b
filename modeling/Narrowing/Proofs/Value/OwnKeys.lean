import Narrowing.Proofs.Key.Order
import Narrowing.Proofs.Value.History
/-!
# Own keys

The own keys of a value are listed from what is known of its computed properties and from the
stored ones, and whether it has an own property is decided by a look at the two in turn.
This file shows that the two routes agree for every object that a builder makes, whatever its
content and however its stored properties collide with the computed ones: the listed keys
are the keys of own properties, each once, in order.

A sequence has at most `Key.indexLimit` positions, since only those have an index as a key.
-/

namespace Narrowing

variable {γ : Type}

/-- What is expected of listed own keys: each is listed once, they are the keys of the own
properties, and they are in order. -/
structure OwnKeysLaw (keys : List Key) (hasOwn : Key → Bool) (leading inserted : List Key) :
    Prop where
  nodup : keys.Nodup
  mem_iff : ∀ k, k ∈ keys ↔ hasOwn k = true
  listed : Key.Listed leading inserted keys

/-! ### The keys of a sequence -/

lemma Key.ofNat_of_lt {n : Nat} (h : n < indexLimit) : ofNat n = .index (UInt32.ofNat n) := by
  simp [ofNat, h]

lemma toNat_ofNat_of_lt_indexLimit {n : Nat} (h : n < Key.indexLimit) :
    (UInt32.ofNat n).toNat = n :=
  UInt32.toNat_ofNat_of_lt' (Nat.lt_trans h (by decide))

section Sequence

variable {size : Nat} (hsize : size ≤ Key.indexLimit)
include hsize

lemma sequenceKeys_eq :
    sequenceKeys size =
      (List.range size).map (fun i => .index (UInt32.ofNat i)) ++ [Key.length] := by
  rw [sequenceKeys]
  congr 1
  refine List.map_congr_left fun i hi => Key.ofNat_of_lt ?_
  exact Nat.lt_of_lt_of_le (List.mem_range.1 hi) hsize

lemma mem_sequenceKeys_iff (k : Key) :
    k ∈ sequenceKeys size ↔ (∃ n : UInt32, k = .index n ∧ n.toNat < size) ∨ k = .length := by
  simp only [sequenceKeys_eq hsize, List.mem_append, List.mem_map, List.mem_range,
    List.mem_singleton]
  refine or_congr_left ⟨?_, ?_⟩
  · rintro ⟨i, hi, rfl⟩
    refine ⟨UInt32.ofNat i, rfl, ?_⟩
    rwa [toNat_ofNat_of_lt_indexLimit (Nat.lt_of_lt_of_le hi hsize)]
  · rintro ⟨n, rfl, hn⟩
    exact ⟨n.toNat, hn, by rw [UInt32.ofNat_toNat]⟩

lemma nodup_sequenceKeys : (sequenceKeys size).Nodup := by
  rw [sequenceKeys_eq hsize, List.nodup_append]
  refine ⟨List.nodup_range.map_on ?_, by simp, by simp [Key.length]⟩
  intro i hi j hj hij
  have hlt : ∀ {n}, n ∈ List.range size → n < Key.indexLimit := fun hn =>
    Nat.lt_of_lt_of_le (List.mem_range.1 hn) hsize
  rw [← toNat_ofNat_of_lt_indexLimit (hlt hi), ← toNat_ofNat_of_lt_indexLimit (hlt hj)]
  rw [Key.index.inj hij]

lemma listed_sequenceKeys : Key.Listed [Key.length] [] (sequenceKeys size) := by
  refine ⟨(List.range size).map UInt32.ofNat, ?_, by simp [sequenceKeys_eq hsize]⟩
  refine List.pairwise_map.2 (List.pairwise_lt_range.imp_of_mem fun {i j} hi hj hij => ?_)
  rw [UInt32.lt_iff_toNat_lt,
    toNat_ofNat_of_lt_indexLimit (Nat.lt_of_lt_of_le (List.mem_range.1 hi) hsize),
    toNat_ofNat_of_lt_indexLimit (Nat.lt_of_lt_of_le (List.mem_range.1 hj) hsize)]
  exact hij

lemma filter_isText_sequenceKeys : (sequenceKeys size).filter Key.isText = [Key.length] := by
  rw [sequenceKeys_eq hsize, List.filter_append]
  have hindex : ((List.range size).map fun i => Key.index (UInt32.ofNat i)).filter Key.isText =
      [] := by
    refine List.filter_eq_nil_iff.2 fun k hk => ?_
    obtain ⟨i, -, rfl⟩ := List.mem_map.1 hk
    exact Bool.false_ne_true
  rw [hindex]
  rfl

end Sequence

/-! ### Computed properties -/

namespace Content

/-- The number of positions of a sequence. -/
def extent : Content γ → Nat
  | array elements => elements.length
  | boxedString s => s.length
  | _ => 0

/-- The texts among the keys of the computed properties. -/
def leadingKeys : Content γ → List Key
  | array _ => [Key.length]
  | boxedString _ => [Key.length]
  | _ => []

end Content

lemma isSome_textProperty?_iff (s : String) (k : Key) :
    (textProperty? s k : Option (Value γ)).isSome = true ↔
      (∃ n : UInt32, k = .index n ∧ n.toNat < s.length) ∨ k = .length := by
  cases k with
  | index n => simp [textProperty?, Key.length, String.length_toList]
  | symbol s => simp [textProperty?, Key.length]
  | string text => by_cases h : text = "length" <;> simp [h, textProperty?, Key.length]

lemma isSome_arrayProperty?_iff (elements : List (Value γ)) (k : Key) :
    ((Content.array elements).property? k).isSome = true ↔
      (∃ n : UInt32, k = .index n ∧ n.toNat < elements.length) ∨ k = .length := by
  cases k with
  | index n => simp [Content.property?, Key.length]
  | symbol s => simp [Content.property?, Key.length]
  | string text => by_cases h : text = "length" <;> simp [h, Content.property?, Key.length]

namespace Content

/-- The keys of the computed properties, which are none for content that is no sequence. -/
lemma keys_cases (c : Content γ) :
    (c.keys = sequenceKeys c.extent ∧ c.leadingKeys = [Key.length]) ∨
      (c.keys = [] ∧ c.leadingKeys = [] ∧ ∀ k, c.property? k = none) := by
  cases c with
  | array elements => exact .inl ⟨rfl, rfl⟩
  | boxedString s => exact .inl ⟨rfl, rfl⟩
  | _ => exact .inr ⟨rfl, rfl, fun _ => rfl⟩

variable {c : Content γ} (hextent : c.extent ≤ Key.indexLimit)
include hextent

lemma nodup_keys : c.keys.Nodup := by
  rcases keys_cases c with ⟨hkeys, -⟩ | ⟨hkeys, -⟩
  · rw [hkeys]
    exact nodup_sequenceKeys hextent
  · rw [hkeys]
    exact List.nodup_nil

/-- The listed computed keys are those of the computed properties. -/
lemma mem_keys_iff (k : Key) : k ∈ c.keys ↔ (c.property? k).isSome = true := by
  cases c with
  | array elements =>
    exact (mem_sequenceKeys_iff hextent k).trans (isSome_arrayProperty?_iff elements k).symm
  | boxedString s =>
    exact (mem_sequenceKeys_iff hextent k).trans (isSome_textProperty?_iff s k).symm
  | _ => simp [keys, property?]

lemma filter_isText_keys : c.keys.filter Key.isText = c.leadingKeys := by
  rcases keys_cases c with ⟨hkeys, hleading⟩ | ⟨hkeys, hleading, -⟩
  · rw [hkeys, hleading, filter_isText_sequenceKeys hextent]
  · rw [hkeys, hleading, List.filter_nil]

lemma isSymbol_of_mem_keys {k : Key} (hk : k ∈ c.keys) : k.isSymbol = false := by
  rcases keys_cases c with ⟨hkeys, -⟩ | ⟨hkeys, -⟩
  · rw [hkeys, mem_sequenceKeys_iff hextent] at hk
    rcases hk with ⟨n, rfl, -⟩ | rfl <;> rfl
  · rw [hkeys] at hk
    exact absurd hk List.not_mem_nil

end Content

/-! ### Own keys -/

namespace Object

/-- The stored keys that no computed property hides. -/
def visibleKeys (o : Object γ) : List Key :=
  o.properties.keys.filter fun key => !o.content.keys.contains key

variable {o : Object γ} (hextent : o.content.extent ≤ Key.indexLimit)

lemma mem_ownKeys_iff (k : Key) :
    k ∈ o.ownKeys ↔ k ∈ o.content.keys ∨ k ∈ o.properties.keys := by
  rw [ownKeys, (sortKeys_perm _).mem_iff]
  by_cases h : k ∈ o.content.keys <;> simp [h]

/-- A stored property is an own one, whether or not a computed one hides it. -/
lemma hasOwn_of_mem_properties {k : Key} (hk : k ∈ o.properties.keys) : o.hasOwn k = true := by
  rw [hasOwn, getOwn?, Option.isSome_or, (Table.isSome_find?_iff k _).2 hk, Bool.or_true]

include hextent

lemma hasOwn_iff (k : Key) :
    o.hasOwn k = true ↔ k ∈ o.content.keys ∨ k ∈ o.properties.keys := by
  rw [Content.mem_keys_iff hextent, ← Table.isSome_find?_iff, hasOwn, getOwn?, Option.isSome_or,
    Bool.or_eq_true]

lemma nodup_listed (hkeys : o.properties.keys.Nodup) :
    (o.content.keys ++ o.visibleKeys).Nodup := by
  -- what is left of the stored keys are those that the computed ones do not hide
  refine List.nodup_append.2 ⟨Content.nodup_keys hextent, hkeys.filter _, ?_⟩
  intro a ha b hb hab
  subst hab
  simp [visibleKeys, ha] at hb

lemma filter_isText_visibleKeys :
    o.visibleKeys.filter Key.isText =
      o.properties.keys.filter fun k => k.isText && !o.content.leadingKeys.contains k := by
  rw [visibleKeys, List.filter_filter]
  refine List.filter_congr fun k _ => ?_
  cases htext : k.isText with
  | false => rfl
  | true =>
    -- a text is a computed key exactly if it is a leading one
    rw [← Content.filter_isText_keys hextent]
    simp [htext]

lemma filter_isSymbol_visibleKeys :
    o.visibleKeys.filter Key.isSymbol = o.properties.keys.filter Key.isSymbol := by
  rw [visibleKeys, List.filter_filter]
  refine List.filter_congr fun k _ => ?_
  cases hsymbol : k.isSymbol with
  | false => rfl
  | true =>
    have hnot : k ∉ o.content.keys := by
      intro hk
      rw [Content.isSymbol_of_mem_keys hextent hk] at hsymbol
      exact Bool.false_ne_true hsymbol
    simp [hnot]

lemma listed_ownKeys (hkeys : o.properties.keys.Nodup) :
    Key.Listed o.content.leadingKeys o.properties.keys o.ownKeys := by
  obtain ⟨indices, hascending, hsorted⟩ :=
    sortKeys_eq (nodup_filterMap_index (nodup_listed hextent hkeys))
  refine ⟨indices, hascending, ?_⟩
  have hsymbols : o.content.keys.filter Key.isSymbol = [] :=
    List.filter_eq_nil_iff.2 fun k hk => by
      simp [Content.isSymbol_of_mem_keys hextent hk]
  rw [List.filter_append, List.filter_append, hsymbols, List.nil_append,
    Content.filter_isText_keys hextent, filter_isText_visibleKeys hextent,
    filter_isSymbol_visibleKeys hextent] at hsorted
  exact hsorted

/-- The own keys of an object whose stored keys are distinct obey the law. -/
lemma ownKeysLaw (hkeys : o.properties.keys.Nodup) :
    OwnKeysLaw o.ownKeys o.hasOwn o.content.leadingKeys o.properties.keys where
  nodup := (sortKeys_perm _).nodup_iff.2 (nodup_listed hextent hkeys)
  mem_iff k := (mem_ownKeys_iff k).trans (hasOwn_iff hextent k).symm
  listed := listed_ownKeys hextent hkeys

end Object

/-- The own keys of a text obey the law. -/
lemma ownKeysLaw_string {s : String} (hsize : s.length ≤ Key.indexLimit) :
    OwnKeysLaw (Value.string s : Value γ).ownKeys (Value.string s : Value γ).hasOwn
      [Key.length] [] where
  nodup := nodup_sequenceKeys hsize
  mem_iff k := (mem_sequenceKeys_iff hsize k).trans (isSome_textProperty?_iff s k).symm
  listed := listed_sequenceKeys hsize

/-- **The own keys of objects and texts.**  Whatever content an object is built from and
whatever steps build it, its own keys are listed once each, they are the keys of its own
properties, and they are in order; so are those of the prototype that a class is built with,
and those of a text. -/
theorem own_keys_obey_law :
    (∀ (content : Content γ) (parent : ParentChoice γ) (history : List (ObjectStep γ))
        (supply : Supply), content.extent ≤ Key.indexLimit →
      let o := ((ObjectBuilder.steps { content, parent } history).build.run supply).1
      OwnKeysLaw o.ownKeys o.hasOwn content.leadingKeys
        (insertedKeys ObjectStep.key? history)) ∧
    (∀ (name : String) (history : List (ClassStep γ)) (supply : Supply),
      ∃ o, ((Function.ofClass name history).run supply).1.prototype = some o ∧
        OwnKeysLaw o.ownKeys o.hasOwn [] (insertedKeys ClassStep.memberKey? history)) ∧
    ∀ s : String, s.length ≤ Key.indexLimit →
      OwnKeysLaw (Value.string s : Value γ).ownKeys (Value.string s : Value γ).hasOwn
        [Key.length] [] := by
  refine ⟨?_, ?_, fun s hsize => ownKeysLaw_string hsize⟩
  · intro content parent history supply hextent o
    have hcontent : o.content = content := ObjectBuilder.content_steps _ history
    have hkeys : o.properties.keys = insertedKeys ObjectStep.key? history :=
      ObjectBuilder.keys_properties_steps rfl history
    rw [← hkeys, ← hcontent]
    exact Object.ownKeysLaw (by rwa [hcontent]) (hkeys ▸ nodup_insertedKeys _ history)
  · intro name history supply
    obtain ⟨o, ho, hcontent, hkeys⟩ := prototype_ofClass name history supply
    have hleading : o.content.leadingKeys = [] := by rw [hcontent]; rfl
    refine ⟨o, ho, ?_⟩
    rw [← hkeys, ← hleading]
    refine Object.ownKeysLaw ?_ (hkeys ▸ nodup_insertedKeys _ history)
    rw [hcontent]
    exact Nat.zero_le _

/-- The stored length and the stored first element of an array do not come twice. -/
theorem own_keys_obey_law_of_colliding_array :
    let history : List (ObjectStep Unit) :=
      [.property (.string "a") .null, .property (.index 0) .null, .property .length .null]
    let o := ((ObjectBuilder.steps { content := .array [.undefined] } history).build.run {}).1
    OwnKeysLaw o.ownKeys o.hasOwn [Key.length] [.string "a", .index 0, .length] := by
  intro history o
  exact own_keys_obey_law.1 (.array [.undefined]) .intrinsic history {} (by decide)

end Narrowing
