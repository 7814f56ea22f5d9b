import Narrowing.Proofs.Guard.Deciding
import Narrowing.Proofs.Guard.Description
/-!
# What a shape accepts

A shape is put together field by field, and a field that is put again replaces the one that was
there.  What the shape accepts depends only on what was put last under each key: an object is
accepted if every such guard accepts what is read under its key.  The order of the fields and
the puts that were replaced decide where an evaluation stops and what is recorded on the way,
but not the verdict.

So a shape that asks for more accepts less.  Asking for more is to have every key of another
shape, with a guard that accepts nothing that the other guard rejects.  This holds of both forms
in which a shape is matched, since they differ only in what is read for a field that is absent.
-/

namespace Narrowing

/-! ### Tables and what was put last -/

section

variable {α β : Type}

/-- The entries of a table are what is found under its keys. -/
lemma Table.mem_iff_find?_eq_some {table : Table α} (h : table.keys.Nodup) (k : Key) (a : α) :
    (k, a) ∈ table ↔ Table.find? k table = some a := by
  induction table with
  | nil => simp [Table.find?]
  | cons entry rest ih =>
    rw [keys_cons, List.nodup_cons] at h
    rw [List.mem_cons, find?_cons, ih h.2]
    split
    · next hkey =>
      have hrest : Table.find? k rest = none := by
        rw [← Option.not_isSome_iff_eq_none, isSome_find?_iff, ← hkey]
        exact h.1
      simp [hrest, Prod.ext_iff, hkey, eq_comm]
    · next hkey => simp [Prod.ext_iff, Ne.symm hkey]

lemma lastPut?_map (f : α → β) (k : Key) (puts : List (Key × α)) :
    lastPut? k (puts.map fun put => (put.1, f put.2)) = (lastPut? k puts).map f := by
  induction puts using List.reverseRecOn with
  | nil => rfl
  | append_singleton puts put ih =>
    rw [List.map_append, List.map_singleton, lastPut?_append_singleton,
      lastPut?_append_singleton, ih]
    split <;> rfl

end

/-- A field of a shape is what was put last under its key, with its view forgotten. -/
lemma Shape.mem_ofFields_iff (fields : List (Key × Guard)) (k : Key) (g : Guard) :
    (k, g) ∈ Shape.ofFields fields ↔ ∃ h, lastPut? k fields = some h ∧ .erased h = g := by
  rw [ofFields_eq_ofPuts, Table.mem_iff_find?_eq_some (Table.nodup_keys_ofPuts _),
    Table.find?_ofPuts, lastPut?_map, Option.map_eq_some_iff]

/-! ### The verdict on a shape -/

namespace Guard

variable {p : Predicates}

/-- What is read under a key for a field that has to be present. -/
def readPresent (v : Value Guard) (k : Key) : Option (Value Guard) := v.get? k

/-- What is read under a key where an absent field counts as `undefined`. -/
def readField (v : Value Guard) (k : Key) : Option (Value Guard) :=
  some ((v.get? k).getD .undefined)

/-- What is read for a field, and the guard of the field accepts it. -/
def FieldAccepted (p : Predicates) (read : Value Guard → Key → Option (Value Guard))
    (v : Value Guard) (k : Key) (g : Guard) : Prop :=
  ∃ w, read v k = some w ∧ (check p g w).result = true

/-- An object is like a shape if every field is present and accepted. -/
lemma result_check_isLike_iff (shape : Shape) (v : Value Guard) :
    (check p (.isLike shape) v).result = true ↔
      (∃ o, v = .object o) ∧
        ∀ field ∈ shape, FieldAccepted p readPresent v field.1 field.2 := by
  cases v with
  | object o =>
    have htest (field : Key × Guard) :
        (testPresent (check p) (.object o) field).result = true ↔
          FieldAccepted p readPresent (.object o) field.1 field.2 := by
      unfold testPresent FieldAccepted readPresent
      cases (Value.object o).get? field.1 <;> simp
    rw [check_isLike, (Logged.decidesAll_all _ shape).passes_iff, List.forall_mem_map]
    simp only [htest, Value.object.injEq, exists_eq', true_and]
  | _ => simp [check]

/-- An object is similar to a shape if every field is accepted, an absent one as `undefined`. -/
lemma result_check_isSimilarTo_iff (shape : Shape) (v : Value Guard) :
    (check p (.isSimilarTo shape) v).result = true ↔
      (∃ o, v = .object o) ∧
        ∀ field ∈ shape, FieldAccepted p readField v field.1 field.2 := by
  cases v with
  | object o =>
    have htest (field : Key × Guard) :
        (testField (check p) (.object o) field).result = true ↔
          FieldAccepted p readField (.object o) field.1 field.2 := by
      simp [testField, FieldAccepted, readField]
    rw [check_isSimilarTo, (Logged.decidesAll_all _ shape).passes_iff, List.forall_mem_map]
    simp only [htest, Value.object.injEq, exists_eq', true_and]
  | _ => simp [check]

/-- The two forms differ in how a field is read, and in nothing else. -/
lemma exists_read {form : Shape → Guard} (hform : form ∈ shapeForms) :
    ∃ read, ∀ (p : Predicates) (shape : Shape) (v : Value Guard),
      (check p (form shape) v).result = true ↔
        (∃ o, v = .object o) ∧
          ∀ field ∈ shape, FieldAccepted p read v field.1 field.2 := by
  rw [shapeForms, List.mem_pair] at hform
  rcases hform with rfl | rfl
  · exact ⟨readPresent, fun _ => result_check_isLike_iff⟩
  · exact ⟨readField, fun _ => result_check_isSimilarTo_iff⟩

/-- For a shape that was put together field by field, these are the fields put last. -/
lemma exists_read_ofFields {form : Shape → Guard} (hform : form ∈ shapeForms) :
    ∃ read, ∀ (p : Predicates) (fields : List (Key × Guard)) (v : Value Guard),
      (check p (form (Shape.ofFields fields)) v).result = true ↔
        (∃ o, v = .object o) ∧
          ∀ k g, lastPut? k fields = some g → FieldAccepted p read v k g := by
  obtain ⟨read, hread⟩ := exists_read hform
  refine ⟨read, fun p fields v => ?_⟩
  have herased (k : Key) (g : Guard) :
      FieldAccepted p read v k (.erased g) ↔ FieldAccepted p read v k g := by
    rw [FieldAccepted, FieldAccepted, check_erased]
  rw [hread]
  refine and_congr_right fun _ => ⟨fun hall k g hg => ?_, fun hall field hfield => ?_⟩
  · exact (herased k g).1 (hall (k, .erased g) ((Shape.mem_ofFields_iff fields k _).2 ⟨g, hg, rfl⟩))
  · obtain ⟨g, hg, heq⟩ := (Shape.mem_ofFields_iff fields field.1 field.2).1 hfield
    rw [← heq]
    exact (herased field.1 g).2 (hall field.1 g hg)

/-- Fields ask for more than others: whatever the others have last under a key, these have a
guard under it that accepts nothing that the other one rejects. -/
def AsksMore (p : Predicates) (fields others : List (Key × Guard)) : Prop :=
  ∀ k h, lastPut? k others = some h →
    ∃ g, lastPut? k fields = some g ∧
      ∀ w, (check p g w).result = true → (check p h w).result = true

lemma AsksMore.of_lastPut?_eq {fields others : List (Key × Guard)}
    (h : ∀ k, lastPut? k fields = lastPut? k others) : AsksMore p fields others :=
  fun k g hg => ⟨g, (h k).trans hg, fun _ => id⟩

lemma AsksMore.accepted {form : Shape → Guard} (hform : form ∈ shapeForms)
    {fields others : List (Key × Guard)} (h : AsksMore p fields others) {v : Value Guard}
    (hv : (check p (form (Shape.ofFields fields)) v).result = true) :
    (check p (form (Shape.ofFields others)) v).result = true := by
  obtain ⟨read, hread⟩ := exists_read_ofFields hform
  obtain ⟨hobject, hfields⟩ := (hread p fields v).1 hv
  refine (hread p others v).2 ⟨hobject, fun k g hg => ?_⟩
  obtain ⟨g', hg', hless⟩ := h k g hg
  obtain ⟨w, hw, haccepted⟩ := hfields k g' hg'
  exact ⟨w, hw, hless w haccepted⟩

/-- **A shape that asks for more accepts less.**  In either form, a shape accepts what a shape
accepts whose fields ask for more.  Only the guards put last count: shapes that have the same
ones, in whatever order, give the same verdict on every value.  A shape without fields accepts
the objects. -/
theorem shape_matching_is_monotone (p : Predicates) {form : Shape → Guard}
    (hform : form ∈ shapeForms) (fields others : List (Key × Guard)) (v : Value Guard) :
    (AsksMore p fields others →
      (check p (form (Shape.ofFields fields)) v).result = true →
      (check p (form (Shape.ofFields others)) v).result = true) ∧
    ((∀ k, lastPut? k fields = lastPut? k others) →
      (check p (form (Shape.ofFields fields)) v).result =
        (check p (form (Shape.ofFields others)) v).result) ∧
    ((check p (form (Shape.ofFields [])) v).result = true ↔ ∃ o, v = .object o) := by
  refine ⟨fun h hv => h.accepted hform hv, fun heq => ?_, ?_⟩
  · rw [Bool.eq_iff_iff]
    exact ⟨(AsksMore.of_lastPut?_eq heq).accepted hform,
      (AsksMore.of_lastPut?_eq fun k => (heq k).symm).accepted hform⟩
  · obtain ⟨read, hread⟩ := exists_read_ofFields hform
    rw [hread]
    exact and_iff_left fun k g hg => nomatch hg

/-- A guard that was replaced under another name of the key does not count, and the guard of
numbers accepts less than an alternative of which it is a member. -/
theorem shape_matching_is_monotone_of_replaced :
    let p : Predicates := fun _ _ => pure false
    let fields : List (Key × Guard) :=
      [(.ofString "0", .classifier .isString), (.string "x", .classifier .isNull),
        (.index 0, .classifier .isNumber)]
    let others : List (Key × Guard) :=
      [(.ofString "0", .anyOf [.classifier .isBoolean, .classifier .isNumber])]
    let v := Value.object (.mk 512 (.array [.number .zero]) none [(.string "x", .null)])
    AsksMore p fields others ∧
      (check p (.isLike (Shape.ofFields others)) v).result = true := by
  intro p fields others v
  have hzero : Key.ofString "0" = .index 0 := by decide +kernel
  have hmore : AsksMore p fields others := by
    intro k h hlast
    have hothers : lastPut? k others = if Key.ofString "0" = k then some _ else none :=
      lastPut?_append_singleton k [] _
    rw [hothers, hzero] at hlast
    split at hlast
    · next hk =>
      obtain rfl := Option.some.inj hlast
      subst hk
      refine ⟨.classifier .isNumber, rfl, fun w hw => ?_⟩
      rw [check_anyOf]
      exact (Logged.decidesSome_any _ _).passes_iff.2
        ⟨_, List.mem_cons_of_mem _ List.mem_cons_self, hw⟩
    · exact nomatch hlast
  refine ⟨hmore, (shape_matching_is_monotone p List.mem_cons_self fields others v).1 hmore ?_⟩
  decide +kernel

end Guard

end Narrowing
