import Narrowing.Proofs.Guard.Description
import Narrowing.Proofs.Guard.Presence
import Narrowing.Proofs.Guard.ShapeOrder
import Narrowing.Proofs.Number.Whole
/-!
# Collections and their properties

The guards of arrays and of records go through the elements of an array and the stored properties of
an ordinary object.  A program sees neither, but it sees the properties that a lookup finds and
the own keys that are listed.  Here the guards are described in these terms alone.

An array is accepted if its properties are, at the indices below its own length: what was stored
under these keys is hidden by the elements.  A record is accepted if its properties are, under its
own keys: an ordinary object has no properties but the stored ones.  Views come in the order of the
indices and in the order in which the properties were first put.
-/

namespace Narrowing

variable {γ : Type}

/-! ### What is stored -/

/-- The properties that a value stores were put under these keys, in the order in which they were
first put. -/
inductive Value.PutInOrder : Value γ → List Key → Prop
  | object (content : Content γ) (parent : ParentChoice γ) (history : List (ObjectStep γ))
      (supply : Supply) :
    PutInOrder
      (.object ((ObjectBuilder.steps { content, parent } history).build.run supply).1)
      (insertedKeys ObjectStep.key? history)
  | prototype {origin : Function.Origin γ} {supply : Supply} {o : Object γ} :
    (origin.make.run supply).1.prototype = some o →
    PutInOrder (.object o) (insertedKeys ClassStep.memberKey? origin.history)
  | intrinsic (i : Intrinsic) : PutInOrder (.object i.toObject) (i.methods.map Intrinsic.Method.key)
  | nothing {v : Value γ} : v.object? = none → PutInOrder v []

lemma Value.PutInOrder.keys_eq {o : Object γ} {keys : List Key}
    (h : (Value.object o).PutInOrder keys) : o.properties.keys = keys ∧ o.StoresOnce := by
  cases h with
  | object content parent history supply =>
    exact ⟨ObjectBuilder.keys_properties_steps rfl history, storesOnce_build _ _ _ _⟩
  | @prototype origin supply _ hproto =>
    obtain ⟨-, -, heq⟩ := (origin.made_make supply).prototype o hproto
    refine ⟨?_, storesOnce_prototype_make origin supply hproto⟩
    rw [heq]
    show (Table.ofPuts _).keys = _
    rw [Table.keys_ofPuts, ClassStep.map_fst_run_memberPuts]
    rfl
  | intrinsic i => exact ⟨keys_properties_toObject i, storesOnce_toObject i⟩
  | nothing hnone => exact nomatch hnone

/-! ### Sequences -/

/-- The length that a value has as its own, if it is a number of positions. -/
def Value.ownLength? (v : Value γ) : Option Nat :=
  match v.getOwn? .length with
  | some (.number x) => x.toInt?.map Int.toNat
  | _ => none

namespace Object

variable {o : Object γ} {elements : List (Value γ)} (h : o.elements? = some elements)
include h

lemma content_of_elements? : o.content = .array elements := by
  unfold elements? at h
  split at h
  · next hcontent => rw [hcontent, Option.some.inj h]
  · exact nomatch h

/-- The elements hide what is stored under their indices. -/
lemma getOwn?_index_of_elements? {i : UInt32} (hi : i.toNat < elements.length) :
    o.getOwn? (.index i) = some elements[i.toNat] := by
  rw [getOwn?, content_of_elements? h]
  simp [Content.property?, hi]

/-- Their number hides what is stored under the key of the length. -/
lemma ownLength?_of_elements? (hsize : elements.length ≤ Key.indexLimit) :
    (Value.object o).ownLength? = some elements.length := by
  have hlt : elements.length < 2 ^ 53 := Nat.lt_of_le_of_lt hsize (by decide)
  have hlength : o.getOwn? .length = some (.number (.ofNat elements.length)) := by
    rw [getOwn?, content_of_elements? h]
    rfl
  show (match o.getOwn? .length with
    | some (.number x) => x.toInt?.map Int.toNat
    | _ => none) = _
  rw [hlength]
  simp [Double.toInt?_ofNat hlt]

end Object

namespace Guard

variable {p : Predicates} {g : Guard}

lemma exists_array {v : Value Guard} {elements : List (Value Guard)}
    (h : v.elements? = some elements) : ∃ o, v = .object o ∧ o.elements? = some elements := by
  cases v with
  | object o => exact ⟨o, rfl, h⟩
  | _ => exact nomatch h

lemma exists_record {v : Value Guard} {properties : Table (Value Guard)}
    (h : v.record? = some properties) : ∃ o, v = .object o ∧ o.content = .ordinary := by
  cases v with
  | object o =>
    obtain ⟨identity, content, parent, stored⟩ := o
    cases content with
    | ordinary => exact ⟨_, rfl, rfl⟩
    | _ => exact nomatch h
  | _ => exact nomatch h

lemma result_check_isArray (v : Value Guard) :
    (check p (.classifier .isArray) v).result = v.elements?.isSome := by
  cases v <;> simp [check, Classifier.check, Classifier.narrow, Value.elements?, Value.object?]

lemma result_check_isRecord (v : Value Guard) :
    (check p (.classifier .isRecord) v).result = v.record?.isSome := by
  cases v with
  | object o =>
    obtain ⟨identity, content, parent, properties⟩ := o
    cases content <;> rfl
  | _ => rfl

/-- Every position of an array of this size is the number of an index. -/
lemma exists_index {i size : Nat} (hi : i < size) (hsize : size ≤ Key.indexLimit) :
    ∃ n : UInt32, n.toNat = i :=
  ⟨UInt32.ofNat i, toNat_ofNat_of_lt_indexLimit (Nat.lt_of_lt_of_le hi hsize)⟩

/-- What a guard that is checked gives when it is narrowed. -/
lemma exists_view {v : Value Guard} (h : (check p g v).result = true) :
    ∃ view, (narrow p g v).result = some view := by
  rw [← isSome_narrow g v, Logged.result_map] at h
  exact Option.isSome_iff_exists.1 h

/-! ### Arrays -/

/-- The guard of arrays is about the properties at the indices below the length. -/
structure ArrayAgrees (p : Predicates) (g : Guard) (v : Value Guard) : Prop where
  check_iff : (check p (.isArrayOf g) v).result = true ↔
    (check p (.classifier .isArray) v).result = true ∧
      ∃ n, v.ownLength? = some n ∧
        ∀ i : UInt32, i.toNat < n → (check p (.hasWith (.index i) g) v).result = true
  /-- The views are those of these properties in the order of the indices, and as many as the
  length says. -/
  narrow_eq : (check p (.isArrayOf g) v).result = true →
    ∃ (n : Nat) (views : List View), v.ownLength? = some n ∧ n ≤ Key.indexLimit ∧
      (narrow p (.isArrayOf g) v).result = some (.list views) ∧ views.length = n ∧
      ∀ i : UInt32, i.toNat < n → ∃ found view, v.getOwn? (.index i) = some found ∧
        (narrow p g found).result = some view ∧ views[i.toNat]? = some view

section

variable {o : Object Guard} {elements : List (Value Guard)} (h : o.elements? = some elements)
include h

lemma result_check_isArrayOf_iff :
    (check p (.isArrayOf g) (.object o)).result = true ↔
      ∀ w ∈ elements, (check p g w).result = true := by
  have hcheck : check p (.isArrayOf g) (.object o) = Logged.all (check p g) elements := by
    rw [check, Value.elements?, Value.object?, Option.bind_some, h]
  rw [hcheck, (Logged.decidesAll_all _ elements).passes_iff, List.forall_mem_map]

/-- The views of the elements are collected without loss. -/
lemma exists_views_of_isArrayOf (hcheck : (check p (.isArrayOf g) (.object o)).result = true) :
    ∃ views, (narrow p (.isArrayOf g) (.object o)).result = some (.list views) ∧
      elements.map (fun w => (narrow p g w).result) = views.map some := by
  have hnarrow : (narrow p (.isArrayOf g) (.object o)).result =
      (Logged.collect (narrow p g) elements).result.map View.list := by
    rw [narrow, Value.elements?, Value.object?, Option.bind_some, h]
    rfl
  obtain ⟨view, hview⟩ := exists_view hcheck
  rw [hnarrow] at hview ⊢
  obtain ⟨views, hviews, rfl⟩ := Option.map_eq_some_iff.1 hview
  exact ⟨views, hview, Logged.result_collect_iff.1 hviews⟩

lemma result_check_hasWith_index_iff {i : UInt32} (hi : i.toNat < elements.length) :
    (check p (.hasWith (.index i) g) (.object o)).result = true ↔
      (check p g elements[i.toNat]).result = true := by
  have hfound : (Value.object o).get? (.index i) = some elements[i.toNat] := by
    rw [Value.get?, Value.getOwn?, Object.getOwn?_index_of_elements? h hi, Option.some_or]
  simp [result_check_hasWith_iff, hfound]

lemma arrayAgrees_of_elements? (hsize : elements.length ≤ Key.indexLimit) :
    ArrayAgrees p g (.object o) where
  check_iff := by
    have harray : (check p (.classifier .isArray) (.object o)).result = true := by
      rw [result_check_isArray, Value.elements?, Value.object?, Option.bind_some, h, Option.isSome_some]
    rw [result_check_isArrayOf_iff h, Object.ownLength?_of_elements? h hsize]
    constructor
    · intro hall
      refine ⟨harray, _, rfl, fun i hi => ?_⟩
      exact (result_check_hasWith_index_iff h hi).2 (hall _ (List.getElem_mem hi))
    · rintro ⟨-, n, hn, hall⟩ w hw
      obtain rfl := Option.some.inj hn
      obtain ⟨i, hi, rfl⟩ := List.mem_iff_getElem.1 hw
      obtain ⟨index, rfl⟩ := exists_index hi hsize
      exact (result_check_hasWith_index_iff h hi).1 (hall index hi)
  narrow_eq hcheck := by
    obtain ⟨views, hviews, hmap⟩ := exists_views_of_isArrayOf h hcheck
    have hlength : elements.length = views.length := by
      rw [← List.length_map, hmap, List.length_map]
    refine ⟨_, views, Object.ownLength?_of_elements? h hsize, hsize, hviews, hlength.symm,
      fun i hi => ?_⟩
    have hview := congrArg (fun results => results[i.toNat]?) hmap
    simp only [List.getElem?_map, List.getElem?_eq_getElem hi,
      List.getElem?_eq_getElem (hlength ▸ hi), Option.map_some, Option.some_inj] at hview
    exact ⟨_, _, Object.getOwn?_index_of_elements? h hi, hview, List.getElem?_eq_getElem _⟩

end

lemma arrayAgrees (p : Predicates) (g : Guard) {v : Value Guard}
    (hsize : ∀ elements, v.elements? = some elements → elements.length ≤ Key.indexLimit) :
    ArrayAgrees p g v := by
  cases helements : v.elements? with
  | none =>
    have hcheck : (check p (.isArrayOf g) v).result = false := by
      rw [check, helements]
      rfl
    refine ⟨iff_of_false ?_ ?_, fun htrue => ?_⟩
    · rw [hcheck]
      exact Bool.false_ne_true
    · rintro ⟨harray, -⟩
      rw [result_check_isArray, helements] at harray
      exact Bool.false_ne_true harray
    · rw [hcheck] at htrue
      exact absurd htrue Bool.false_ne_true
  | some elements =>
    obtain ⟨o, rfl, ho⟩ := exists_array helements
    exact arrayAgrees_of_elements? ho (hsize elements helements)

/-! ### Records -/

/-- The guard of records is about the properties under the own keys. -/
structure RecordAgrees (p : Predicates) (g : Guard) (v : Value Guard) (keys : List Key) :
    Prop where
  check_iff : (check p (.isRecordOf g) v).result = true ↔
    (check p (.classifier .isRecord) v).result = true ∧
      ∀ k ∈ v.ownKeys, (check p (.hasWith k g) v).result = true
  /-- There is one pair of a key and a view for each own key, in the order of these keys. -/
  narrow_eq : (check p (.isRecordOf g) v).result = true →
    ∃ pairs : List (Key × View),
      (narrow p (.isRecordOf g) v).result =
        some (.list (pairs.map fun pair => .tuple [.key pair.1, pair.2])) ∧
      pairs.map Prod.fst = keys ∧ keys.Perm v.ownKeys ∧ keys.Nodup ∧
      ∀ pair ∈ pairs, ∃ found, v.getOwn? pair.1 = some found ∧
        (narrow p g found).result = some pair.2

/-- The entries of a table are collected without loss: each gives its key and the view of what is
stored under it. -/
lemma exists_pairs {entries : List (Key × Value Guard)}
    (h : ∀ entry ∈ entries, (check p g entry.2).result = true) :
    ∃ pairs : List (Key × View),
      (Logged.collect (viewField (narrow p g)) entries).result =
        some (pairs.map fun pair => .tuple [.key pair.1, pair.2]) ∧
      pairs.map Prod.fst = entries.map Prod.fst ∧
      ∀ pair ∈ pairs, ∃ found, (pair.1, found) ∈ entries ∧
        (narrow p g found).result = some pair.2 := by
  induction entries with
  | nil => exact ⟨[], rfl, rfl, fun pair hpair => absurd hpair List.not_mem_nil⟩
  | cons entry rest ih =>
    obtain ⟨view, hview⟩ := exists_view (h entry List.mem_cons_self)
    obtain ⟨pairs, hpairs, hkeys, hviews⟩ := ih fun e he => h e (List.mem_cons_of_mem entry he)
    refine ⟨(entry.1, view) :: pairs, ?_, ?_, fun pair hpair => ?_⟩
    · simp [Logged.collect, viewField, hview, hpairs]
    · rw [List.map_cons, List.map_cons, hkeys]
    · rcases List.mem_cons.1 hpair with rfl | hpair
      · exact ⟨entry.2, List.mem_cons_self, hview⟩
      · obtain ⟨found, hmem, hfound⟩ := hviews pair hpair
        exact ⟨found, List.mem_cons_of_mem entry hmem, hfound⟩

section

variable {o : Object Guard} (h : o.content = .ordinary)
include h

lemma record?_of_content : (Value.object o).record? = some o.properties := by
  obtain ⟨identity, content, parent, properties⟩ := o
  obtain rfl : content = .ordinary := h
  rfl

lemma getOwn?_of_content (k : Key) : o.getOwn? k = o.properties.find? k := by
  rw [Object.getOwn?, h]
  rfl

/-- An ordinary object has the stored keys for own keys. -/
lemma perm_ownKeys_of_content : o.properties.keys.Perm o.ownKeys := by
  have hkeys : o.ownKeys = sortKeys o.properties.keys := by
    rw [Object.ownKeys, h]
    simp [Content.keys]
  rw [hkeys]
  exact (sortKeys_perm _).symm

lemma result_check_isRecordOf_iff :
    (check p (.isRecordOf g) (.object o)).result = true ↔
      ∀ entry ∈ o.properties, (check p g entry.2).result = true := by
  have hcheck : check p (.isRecordOf g) (.object o) =
      Logged.all (fun entry => check p g entry.2) o.properties := by
    rw [check, record?_of_content h]
  rw [hcheck, (Logged.decidesAll_all _ o.properties).passes_iff, List.forall_mem_map]

lemma getOwn?_of_mem (honce : o.StoresOnce) {k : Key} {found : Value Guard}
    (hmem : (k, found) ∈ o.properties) : o.getOwn? k = some found :=
  (getOwn?_of_content h k).trans ((Table.mem_iff_find?_eq_some honce k found).1 hmem)

lemma result_check_hasWith_iff_of_mem (honce : o.StoresOnce) {k : Key} {found : Value Guard}
    (hmem : (k, found) ∈ o.properties) :
    (check p (.hasWith k g) (.object o)).result = true ↔ (check p g found).result = true := by
  have hfound : (Value.object o).get? k = some found := by
    rw [Value.get?, Value.getOwn?, getOwn?_of_mem h honce hmem, Option.some_or]
  simp [result_check_hasWith_iff, hfound]

lemma recordAgrees_of_content (honce : o.StoresOnce) :
    RecordAgrees p g (.object o) o.properties.keys where
  check_iff := by
    have hrecord : (check p (.classifier .isRecord) (.object o)).result = true := by
      rw [result_check_isRecord, record?_of_content h, Option.isSome_some]
    rw [result_check_isRecordOf_iff h]
    refine ⟨fun hall => ⟨hrecord, fun k hk => ?_⟩, fun hall entry hmem => ?_⟩
    · obtain ⟨entry, hmem, rfl⟩ := List.mem_map.1 ((perm_ownKeys_of_content h).mem_iff.2 hk)
      exact (result_check_hasWith_iff_of_mem h honce hmem).2 (hall entry hmem)
    · have hk : entry.1 ∈ o.ownKeys :=
        (perm_ownKeys_of_content h).mem_iff.1 (List.mem_map_of_mem hmem)
      exact (result_check_hasWith_iff_of_mem h honce hmem).1 (hall.2 entry.1 hk)
  narrow_eq hcheck := by
    have hnarrow : (narrow p (.isRecordOf g) (.object o)).result =
        (Logged.collect (viewField (narrow p g)) o.properties).result.map View.list := by
      rw [narrow, record?_of_content h]
      rfl
    obtain ⟨pairs, hpairs, hkeys, hviews⟩ :=
      exists_pairs ((result_check_isRecordOf_iff h).1 hcheck)
    refine ⟨pairs, ?_, hkeys, perm_ownKeys_of_content h, honce, fun pair hpair => ?_⟩
    · rw [hnarrow, hpairs, Option.map_some]
    · obtain ⟨found, hmem, hfound⟩ := hviews pair hpair
      exact ⟨found, getOwn?_of_mem h honce hmem, hfound⟩

end

/-- What is no ordinary object is no record, by either guard. -/
lemma recordAgrees_of_record?_eq_none {v : Value Guard} (h : v.record? = none) (keys : List Key) :
    RecordAgrees p g v keys := by
  have hcheck : (check p (.isRecordOf g) v).result = false := by
    rw [check, h]
    rfl
  have hrecord : (check p (.classifier .isRecord) v).result = false := by
    rw [result_check_isRecord, h]
    rfl
  refine ⟨iff_of_false ?_ ?_, fun htrue => ?_⟩
  · rw [hcheck]
    exact Bool.false_ne_true
  · rintro ⟨htrue, -⟩
    rw [hrecord] at htrue
    exact Bool.false_ne_true htrue
  · rw [hcheck] at htrue
    exact absurd htrue Bool.false_ne_true

lemma recordAgrees (p : Predicates) (g : Guard) {v : Value Guard} {keys : List Key}
    (h : v.PutInOrder keys) : RecordAgrees p g v keys := by
  cases hrecord : v.record? with
  | none => exact recordAgrees_of_record?_eq_none hrecord keys
  | some properties =>
    obtain ⟨o, rfl, hcontent⟩ := exists_record hrecord
    obtain ⟨rfl, honce⟩ := h.keys_eq
    exact recordAgrees_of_content hcontent honce

/-- **Collections are seen through their properties**: an array whose positions are all indices
through the properties there, and a record through those under its own keys. -/
theorem collections_agree_with_properties (p : Predicates) (g : Guard) (v : Value Guard) :
    ((∀ elements, v.elements? = some elements → elements.length ≤ Key.indexLimit) →
      ArrayAgrees p g v) ∧
    ∀ keys, v.PutInOrder keys → RecordAgrees p g v keys :=
  ⟨arrayAgrees p g, fun _ => recordAgrees p g⟩

/-- An array of nulls stays one with other properties stored under its index and its length, which
are properties of a record in their own right. -/
theorem collections_agree_with_properties_of_colliding :
    let p : Predicates := fun _ _ => pure false
    let g : Guard := .classifier .isNull
    let history : List (ObjectStep Guard) :=
      [.property (.string "b") .null, .property (.index 0) .undefined, .property .length .null]
    let build := fun content : Content Guard =>
      Value.object ((ObjectBuilder.steps { content, parent := .intrinsic } history).build.run {}).1
    (ArrayAgrees p g (build (.array [.null])) ∧
        (check p (.isArrayOf g) (build (.array [.null]))).result = true) ∧
      RecordAgrees p g (build .ordinary) [.string "b", .index 0, .length] ∧
        (check p (.isRecordOf g) (build .ordinary)).result = false := by
  intro p g history build
  refine ⟨⟨?_, by decide⟩, ?_, by decide⟩
  · refine (collections_agree_with_properties p g _).1 fun elements h => ?_
    obtain rfl := Option.some.inj h
    decide
  · exact (collections_agree_with_properties p g _).2 _ (.object .ordinary .intrinsic history {})

end Guard

end Narrowing
