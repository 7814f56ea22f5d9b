import Mathlib.Data.List.Forall2
import Narrowing.Guard.Shape
import Narrowing.Proofs.Value.Origin
import Narrowing.Proofs.Value.OwnKeys
/-!
# Shapes that values describe

A shape is put together field by field, or it is read from an object whose own properties
hold functions that carry guards.  The two ways are compared here.  Reading goes through the
own keys in the order in which they are listed and stops at the first that holds anything
else; if there is none, the fields that are read are the own keys with what they carry.

A function that was made from a guard carries the guard with its view forgotten, and so does a
field that is put.  A field that is put with what a function carries has its view forgotten
twice.  None of this shows when the fields are checked, so that shapes with the same keys
that carry the same guards, wrapped or not, evaluate alike.
-/

namespace Narrowing

/-! ### What an object holds -/

/-- Each stored key is stored once. -/
def Object.StoresOnce {γ : Type} (o : Object γ) : Prop := o.properties.keys.Nodup

section StoresOnce

variable {γ : Type}

/-- Builders put what they store into a table, whose keys are distinct. -/
lemma storesOnce_build (content : Content γ) (parent : ParentChoice γ)
    (history : List (ObjectStep γ)) (supply : Supply) :
    ((ObjectBuilder.steps { content, parent } history).build.run supply).1.StoresOnce := by
  show (ObjectBuilder.steps { content, parent } history).properties.keys.Nodup
  rw [ObjectBuilder.properties_steps rfl]
  exact Table.nodup_keys_ofPuts _

/-- So do the prototypes of functions. -/
lemma storesOnce_prototype_make (origin : Function.Origin γ) (supply : Supply)
    {proto : Object γ} (hproto : (origin.make.run supply).1.prototype = some proto) :
    proto.StoresOnce := by
  obtain ⟨-, -, heq⟩ := (origin.made_make supply).prototype proto hproto
  rw [Object.StoresOnce, heq]
  exact Table.nodup_keys_ofPuts _

lemma keys_properties_methods (identity : Nat) (methods : List Intrinsic.Method) :
    (Intrinsic.properties identity methods : Table (Value γ)).keys =
      methods.map Intrinsic.Method.key := by
  induction methods generalizing identity with
  | nil => rfl
  | cons m rest ih => rw [Intrinsic.properties, Table.keys_cons, ih, List.map_cons]

lemma keys_properties_toObject (i : Intrinsic) :
    (i.toObject : Object γ).properties.keys = i.methods.map Intrinsic.Method.key := by
  cases i <;> exact keys_properties_methods _ _

/-- So do the intrinsic objects. -/
lemma storesOnce_toObject (i : Intrinsic) : (i.toObject : Object γ).StoresOnce := by
  rw [Object.StoresOnce, keys_properties_toObject]
  cases i <;> decide

end StoresOnce

/-! ### Functions that carry a guard -/

/-- The guard that a function carries, by the way it was made. -/
def Function.Origin.guard? {γ : Type} : Function.Origin γ → Option γ
  | ofGuard _ guard => some guard
  | _ => none

/-- Only a function that was made from a guard carries one. -/
lemma Function.Origin.guard_make {γ : Type} (origin : Function.Origin γ) (supply : Supply) :
    (origin.make.run supply).1.guard = origin.guard? := by
  cases origin with
  | ofKind name kind => cases kind <;> rfl
  | _ => rfl

/-- An own property holds a function that carries the guard. -/
def Object.Holds (o : Object Guard) (key : Key) (g : Guard) : Prop :=
  ∃ f, o.getOwn? key = some (.function f) ∧ f.guard = some g

lemma Object.Holds.unique {o : Object Guard} {key : Key} {g h : Guard} (hg : o.Holds key g)
    (hh : o.Holds key h) : g = h := by
  obtain ⟨f, hf, hguard⟩ := hg
  obtain ⟨f', hf', hguard'⟩ := hh
  obtain rfl : f = f' := by simpa using hf.symm.trans hf'
  exact Option.some.inj (hguard.symm.trans hguard')

namespace Shape

lemma guardAt?_eq_some_iff (o : Object Guard) (key : Key) (g : Guard) :
    guardAt? o key = some g ↔ o.Holds key g := by
  constructor
  · intro h
    obtain ⟨v, hv, hguard⟩ := Option.bind_eq_some_iff.1 h
    obtain ⟨f, hf, hguard⟩ := Option.bind_eq_some_iff.1 hguard
    cases v with
    | function f' =>
      obtain rfl : f' = f := Option.some.inj hf
      exact ⟨f', hv, hguard⟩
    | _ => simp [Value.function?] at hf
  · rintro ⟨f, hf, hguard⟩
    simp [guardAt?, hf, hguard, Value.function?]

lemma guardAt?_eq_none_iff (o : Object Guard) (key : Key) :
    guardAt? o key = none ↔ ∀ g, ¬ o.Holds key g := by
  simp [Option.eq_none_iff_forall_ne_some, guardAt?_eq_some_iff]

/-! ### Reading the fields -/

variable {o : Object Guard}

/-- Reading stops at the first key that holds no guard. -/
lemma readFields_eq_error_iff (keys : List Key) (shape : Shape) (e : ShapeError) :
    readFields o keys shape = .error e ↔
      ∃ key, e = .notAGuard key ∧ keys.find? (fun k => (guardAt? o k).isNone) = some key := by
  induction keys generalizing shape with
  | nil => simp [readFields]
  | cons key rest ih =>
    cases h : guardAt? o key with
    | none => simp [readFields, h, eq_comm]
    | some g => simp [readFields, h, ih]

/-- Fields that the object holds are read as they are put. -/
lemma readFields_of_holds (fields : List (Key × Guard)) (shape : Shape)
    (h : ∀ field ∈ fields, o.Holds field.1 field.2) :
    readFields o (fields.map Prod.fst) shape =
      .ok (fields.foldl (fun shape field => Table.put field.1 field.2 shape) shape) := by
  induction fields generalizing shape with
  | nil => rfl
  | cons field rest ih =>
    have hfield := (guardAt?_eq_some_iff o _ _).2 (h field List.mem_cons_self)
    rw [List.map_cons, readFields, hfield, List.foldl_cons]
    exact ih _ fun field' hmem => h field' (List.mem_cons_of_mem _ hmem)

/-- The first of several keys that holds no guard. -/
def FirstWithout (o : Object Guard) (keys : List Key) (key : Key) : Prop :=
  ∃ before after, keys = before ++ key :: after ∧ (∀ k ∈ before, ∃ g, o.Holds k g) ∧
    ∀ g, ¬ o.Holds key g

lemma find?_isNone_eq_some_iff (keys : List Key) (key : Key) :
    keys.find? (fun k => (guardAt? o k).isNone) = some key ↔ FirstWithout o keys key := by
  have hholds : ∀ k, (!(guardAt? o k).isNone) = true ↔ ∃ g, o.Holds k g := by
    intro k
    simp only [← guardAt?_eq_some_iff, ← Option.isSome_iff_exists]
    cases guardAt? o k <;> simp
  rw [List.find?_eq_some_iff_append, Option.isNone_iff_eq_none, guardAt?_eq_none_iff]
  simp only [hholds]
  constructor
  · rintro ⟨hno, before, after, hkeys, hbefore⟩
    exact ⟨before, after, hkeys, hbefore, hno⟩
  · rintro ⟨before, after, hkeys, hbefore, hno⟩
    exact ⟨hno, before, after, hkeys, hbefore⟩

lemma exists_fields (keys : List Key) (h : ∀ key ∈ keys, ∃ g, o.Holds key g) :
    ∃ fields : List (Key × Guard), fields.map Prod.fst = keys ∧
      ∀ field ∈ fields, o.Holds field.1 field.2 := by
  induction keys with
  | nil => exact ⟨[], rfl, by simp⟩
  | cons key rest ih =>
    obtain ⟨g, hg⟩ := h key List.mem_cons_self
    obtain ⟨fields, hkeys, hfields⟩ := ih fun k hk => h k (List.mem_cons_of_mem _ hk)
    refine ⟨(key, g) :: fields, by rw [List.map_cons, hkeys], ?_⟩
    intro field hmem
    rcases List.mem_cons.1 hmem with rfl | hmem
    · exact hg
    · exact hfields field hmem

/-- Where every own key holds a guard, none is listed twice: the length of a sequence holds
none. -/
lemma nodup_ownKeys_of_holds (hstored : o.StoresOnce)
    (h : ∀ key ∈ o.ownKeys, ∃ g, o.Holds key g) : o.ownKeys.Nodup := by
  cases hcontent : o.content with
  | array elements | boxedString s =>
    have hlength : Key.length ∈ o.content.keys := by
      simp [hcontent, Content.keys, sequenceKeys]
    obtain ⟨g, f, hf, -⟩ := h .length ((Object.mem_ownKeys_iff _).2 (.inl hlength))
    simp [Object.getOwn?, hcontent, Content.property?, textProperty?, Key.length] at hf
  | _ =>
    have hextent : o.content.extent ≤ Key.indexLimit := by
      rw [hcontent]
      exact Nat.zero_le _
    exact (Object.ownKeysLaw hextent hstored).nodup

/-- Fields under all own keys are read as they are. -/
lemma readFields_ownKeys (hstored : o.StoresOnce) {fields : List (Key × Guard)}
    (hkeys : fields.map Prod.fst = o.ownKeys) (h : ∀ field ∈ fields, o.Holds field.1 field.2) :
    readFields o o.ownKeys [] = .ok fields := by
  have hnodup : (fields.map Prod.fst).Nodup := by
    rw [hkeys]
    refine nodup_ownKeys_of_holds hstored fun key hkey => ?_
    rw [← hkeys] at hkey
    obtain ⟨field, hfield, rfl⟩ := List.mem_map.1 hkey
    exact ⟨field.2, h field hfield⟩
  rw [← hkeys, readFields_of_holds fields [] h]
  exact congrArg Except.ok (Table.ofPuts_eq_self hnodup)

/-- Reading the own keys gives a shape exactly if it has these keys and what they carry. -/
lemma readFields_ownKeys_eq_ok_iff (hstored : o.StoresOnce) (shape : Shape) :
    readFields o o.ownKeys [] = .ok shape ↔
      shape.keys = o.ownKeys ∧ ∀ field ∈ shape, o.Holds field.1 field.2 := by
  constructor
  · intro hok
    have hall : ∀ key ∈ o.ownKeys, ∃ g, o.Holds key g := by
      by_contra hno
      -- a first key without a guard would have been an error
      have hfind : ∃ key, o.ownKeys.find? (fun k => (guardAt? o k).isNone) = some key := by
        rw [← Option.isSome_iff_exists, List.find?_isSome]
        push Not at hno
        obtain ⟨key, hkey, hno⟩ := hno
        exact ⟨key, hkey, Option.isNone_iff_eq_none.2 ((guardAt?_eq_none_iff o key).2 hno)⟩
      obtain ⟨key, hkey⟩ := hfind
      have herror := (readFields_eq_error_iff o.ownKeys [] _).2 ⟨key, rfl, hkey⟩
      exact nomatch hok.symm.trans herror
    obtain ⟨fields, hkeys, hfields⟩ := exists_fields o.ownKeys hall
    obtain rfl := Except.ok.inj (hok.symm.trans (readFields_ownKeys hstored hkeys hfields))
    exact ⟨hkeys, hfields⟩
  · rintro ⟨hkeys, hfields⟩
    exact readFields_ownKeys hstored hkeys hfields

end Shape

/-! ### Shapes that check alike -/

namespace Guard

/-- Two guards evaluate alike on every value, either way. -/
def Alike (p : Predicates) (g h : Guard) : Prop :=
  ∀ v, check p g v = check p h v ∧ narrow p g v = narrow p h v

variable {p : Predicates}

/-- Two shapes have the same keys in the same order, and their guards check alike. -/
def ChecksAs (p : Predicates) (shape other : Shape) : Prop :=
  List.Forall₂ (fun a b => a.1 = b.1 ∧ check p a.2 = check p b.2) shape other

lemma checkPresent_congr {shape other : Shape} (h : ChecksAs p shape other) (v : Value Guard) :
    checkPresent p shape v = checkPresent p other v := by
  induction h with
  | nil => rfl
  | @cons a b _ _ hab _ ih =>
    obtain ⟨hkey, hcheck⟩ := hab
    simp only [checkPresent, hkey, hcheck, ih]

lemma checkFields_congr {shape other : Shape} (h : ChecksAs p shape other) (v : Value Guard) :
    checkFields p shape v = checkFields p other v := by
  induction h with
  | nil => rfl
  | @cons a b _ _ hab _ ih =>
    obtain ⟨hkey, hcheck⟩ := hab
    simp only [checkFields, hkey, hcheck, ih]

/-- The two guards over a shape. -/
def shapeForms : List (Shape → Guard) := [isLike, isSimilarTo]

lemma alike_of_checksAs {shape other : Shape} (h : ChecksAs p shape other) {form : Shape → Guard}
    (hform : form ∈ shapeForms) : Alike p (form shape) (form other) := by
  intro v
  rw [shapeForms, List.mem_pair] at hform
  rcases hform with rfl | rfl
  · cases v <;> simp [check, narrow, checkPresent_congr h]
  · cases v <;> simp [check, narrow, checkFields_congr h]

lemma check_erased (g : Guard) : check p (.erased g) = check p g := by
  funext v
  rw [check]

/-- What an object holds checks as the fields that are put with what its functions were made
from, or with what they carry. -/
lemma checksAs_of_holds {o : Object Guard} {shape : Shape} {fields : List (Key × Guard)}
    (hkeys : shape.map Prod.fst = fields.map Prod.fst)
    (hshape : ∀ field ∈ shape, o.Holds field.1 field.2)
    (hfields : ∀ field ∈ fields, o.Holds field.1 (.erased field.2) ∨ o.Holds field.1 field.2) :
    ChecksAs p shape (fields.map fun field => (field.1, .erased field.2)) := by
  induction shape generalizing fields with
  | nil =>
    cases fields with
    | nil => exact .nil
    | cons _ _ => simp at hkeys
  | cons a shape ih =>
    cases fields with
    | nil => simp at hkeys
    | cons b fields =>
      obtain ⟨hkey, hkeys⟩ := List.cons.inj hkeys
      have ha := hshape a List.mem_cons_self
      rw [hkey] at ha
      refine .cons ⟨hkey, ?_⟩ (ih hkeys ?_ ?_)
      · rcases hfields b List.mem_cons_self with hb | hb
        · rw [ha.unique hb]
        · rw [ha.unique hb, check_erased]
      · exact fun field hmem => hshape field (List.mem_cons_of_mem _ hmem)
      · exact fun field hmem => hfields field (List.mem_cons_of_mem _ hmem)

end Guard

/-- Fields are put with their views forgotten. -/
lemma Shape.ofFields_eq_ofPuts (fields : List (Key × Guard)) :
    Shape.ofFields fields =
      Table.ofPuts (fields.map fun field => (field.1, Guard.erased field.2)) := by
  rw [Table.ofPuts, List.foldl_map]
  rfl

lemma Shape.ofFields_eq {fields : List (Key × Guard)} (h : (fields.map Prod.fst).Nodup) :
    Shape.ofFields fields = fields.map fun field => (field.1, .erased field.2) := by
  rw [ofFields_eq_ofPuts]
  exact Table.ofPuts_eq_self (by simpa [Function.comp_def] using h)

/-! ### What comes of a description -/

namespace Shape

open Guard (Alike shapeForms)

/-- What comes of a description of a shape. -/
structure Reading (p : Predicates) (description : Value Guard) : Prop where
  notAnObject_iff : ∀ t, (ofValue description).result = .error (.notAnObject t) ↔
    description.object? = none ∧ t = description.typeOf
  notAGuard_iff : ∀ key, (ofValue description).result = .error (.notAGuard key) ↔
    ∃ o, description = .object o ∧ FirstWithout o o.ownKeys key
  /-- The fields are the own keys in order, with what they carry. -/
  ok_iff : ∀ shape, (ofValue description).result = .ok shape ↔
    ∃ o, description = .object o ∧ shape.keys = o.ownKeys ∧
      ∀ field ∈ shape, o.Holds field.1 field.2
  /-- An error is recorded once, and nothing else is. -/
  recorded : (ofValue description).events =
    match (ofValue description).result with
    | .ok _ => []
    | .error e => [.rejected e]
  rejected : ∀ form ∈ shapeForms, ∀ e, (ofValue description).result = .error e →
    Guard.ofDescription form description = ⟨.error e, [.rejected e]⟩
  /-- The guard that is described evaluates as the one over the fields put one by one. -/
  accepted : ∀ form ∈ shapeForms, ∀ (o : Object Guard) (fields : List (Key × Guard)),
    description = .object o → fields.map Prod.fst = o.ownKeys →
    (∀ field ∈ fields, o.Holds field.1 (.erased field.2) ∨ o.Holds field.1 field.2) →
    ∃ g, Guard.ofDescription form description = ⟨.ok g, []⟩ ∧ Alike p g (form (ofFields fields))

lemma ofValue_of_ok {description : Value Guard} {shape : Shape}
    (h : ofValue? description = .ok shape) : ofValue description = ⟨.ok shape, []⟩ := by
  rw [ofValue, h]
  rfl

lemma ofValue_of_error {description : Value Guard} {e : ShapeError}
    (h : ofValue? description = .error e) :
    ofValue description = ⟨.error e, [.rejected e]⟩ := by
  rw [ofValue, h]
  rfl

lemma result_ofValue (description : Value Guard) :
    (ofValue description).result = ofValue? description := by
  cases h : ofValue? description with
  | ok shape => rw [ofValue_of_ok h]
  | error e => rw [ofValue_of_error h]

lemma ofValue?_of_object?_eq_none {description : Value Guard} (h : description.object? = none) :
    ofValue? description = .error (.notAnObject description.typeOf) := by
  cases description with
  | object o => exact nomatch h
  | _ => rfl

/-- What an object describes is read from its own keys. -/
lemma reading_object (p : Predicates) {o : Object Guard} (hstored : o.StoresOnce) :
    Reading p (.object o) where
  notAnObject_iff t := by
    rw [result_ofValue, ofValue?, readFields_eq_error_iff]
    simp [Value.object?]
  notAGuard_iff key := by
    rw [result_ofValue, ofValue?, readFields_eq_error_iff]
    simp [find?_isNone_eq_some_iff]
  ok_iff shape := by
    rw [result_ofValue, ofValue?, readFields_ownKeys_eq_ok_iff hstored]
    simp
  recorded := by
    cases h : ofValue? (.object o) with
    | ok shape => rw [ofValue_of_ok h]
    | error e => rw [ofValue_of_error h]
  rejected form _ e he := by
    rw [result_ofValue] at he
    rw [Guard.ofDescription, ofValue_of_error he]
    rfl
  accepted form hform o' fields ho hkeys hfields := by
    obtain rfl := Value.object.inj ho
    -- what the own keys carry is what the fields are made from, wrapped or not
    have hall : ∀ key ∈ o.ownKeys, ∃ g, o.Holds key g := by
      intro key hkey
      rw [← hkeys] at hkey
      obtain ⟨field, hfield, rfl⟩ := List.mem_map.1 hkey
      rcases hfields field hfield with h | h
      · exact ⟨_, h⟩
      · exact ⟨_, h⟩
    obtain ⟨shape, hshape, hholds⟩ := exists_fields o.ownKeys hall
    have hread : ofValue? (.object o) = .ok shape := readFields_ownKeys hstored hshape hholds
    have hnodup : (fields.map Prod.fst).Nodup := hkeys ▸ nodup_ownKeys_of_holds hstored hall
    refine ⟨form shape, ?_, ?_⟩
    · rw [Guard.ofDescription, ofValue_of_ok hread]
      rfl
    · rw [ofFields_eq hnodup]
      exact Guard.alike_of_checksAs
        (Guard.checksAs_of_holds (hshape.trans hkeys.symm) hholds hfields) hform

/-- A value that is no object describes nothing. -/
lemma reading_of_object?_eq_none (p : Predicates) {description : Value Guard}
    (h : description.object? = none) : Reading p description := by
  have hread := ofValue?_of_object?_eq_none h
  have hno : ∀ o, description ≠ .object o := by
    rintro o rfl
    exact nomatch h
  have hvalue := ofValue_of_error hread
  refine ⟨?_, ?_, ?_, ?_, ?_, ?_⟩
  · intro t
    simp [hvalue, h, eq_comm]
  · intro key
    simp [hvalue, hno]
  · intro shape
    simp [hvalue, hno]
  · rw [hvalue]
  · intro form _ e he
    rw [result_ofValue] at he
    rw [Guard.ofDescription, ofValue_of_error he]
    rfl
  · intro form _ o fields ho
    exact absurd ho (hno o)

end Shape

/-- **Reading a shape from a value.**  A value that is no object is rejected with its type, and
an object with the first of its own keys that does not hold a function made from a guard.
What is read otherwise is the own keys in order, and the guard over it evaluates as the one
over the fields put one by one.  Each rejection is recorded once, and nothing else is.  The
objects that are built store each key once, and so do prototypes and intrinsic objects. -/
theorem description_is_read (p : Predicates) :
    (∀ description, (∀ o, description = .object o → o.StoresOnce) →
      Shape.Reading p description) ∧
    ((∀ (content : Content Guard) (parent : ParentChoice Guard)
        (history : List (ObjectStep Guard)) (supply : Supply),
        ((ObjectBuilder.steps { content, parent } history).build.run supply).1.StoresOnce) ∧
      (∀ (origin : Function.Origin Guard) (supply : Supply) (proto : Object Guard),
        (origin.make.run supply).1.prototype = some proto → proto.StoresOnce) ∧
      ∀ i : Intrinsic, (i.toObject : Object Guard).StoresOnce) ∧
    ∀ (origin : Function.Origin Guard) (supply : Supply),
      (∃ g, (origin.make.run supply).1.guard = some g) ↔ ∃ name g, origin = .ofGuard name g := by
  refine ⟨fun description hstored => ?_, ⟨?_, ?_, ?_⟩, fun origin supply => ?_⟩
  · cases h : description.object? with
    | none => exact Shape.reading_of_object?_eq_none p h
    | some o =>
      cases description with
      | object o' => exact Shape.reading_object p (hstored o' rfl)
      | _ => exact nomatch h
  · exact storesOnce_build
  · exact fun origin supply _ => storesOnce_prototype_make origin supply
  · exact storesOnce_toObject
  · rw [Function.Origin.guard_make]
    cases origin <;> simp [Function.Origin.guard?]

/-- A described field evaluates as the field put by hand, and an array describes no shape, since
its length is no guard. -/
theorem description_is_read_of_fields :
    let p : Predicates := fun _ _ => pure false
    let f := ((Guard.toFunction "isNumber" (.classifier .isNumber)).run {}).1
    let history : List (ObjectStep Guard) := [.property (.string "x") (.function f)]
    let o := ((ObjectBuilder.steps { content := .ordinary } history).build.run {}).1
    let a := ((ObjectBuilder.steps { content := .array [.function f] } []).build.run {}).1
    (∃ g, Guard.ofDescription .isLike (.object o) = ⟨.ok g, []⟩ ∧
        Guard.Alike p g (.isLike (Shape.ofFields [(.string "x", .classifier .isNumber)]))) ∧
      (Shape.ofValue (.object a)).result = .error (.notAGuard .length) := by
  intro p f history o a
  obtain ⟨hread, ⟨hbuilt, -, -⟩, -⟩ := description_is_read p
  have hobject := hread (.object o) fun o' ho' => by
    rw [← Value.object.inj ho']
    exact hbuilt .ordinary .intrinsic history {}
  have harray := hread (.object a) fun a' ha' => by
    rw [← Value.object.inj ha']
    exact hbuilt (.array [.function f]) .intrinsic [] {}
  constructor
  · have hkeys : o.ownKeys = [.string "x"] := List.mergeSort_singleton _
    refine hobject.accepted .isLike List.mem_cons_self o [(.string "x", .classifier .isNumber)]
      rfl hkeys.symm ?_
    intro field hfield
    rw [List.mem_singleton.1 hfield]
    exact .inl ⟨f, rfl, rfl⟩
  · have hkeys : a.ownKeys = [.index 0, .length] := List.mergeSort_of_pairwise (by decide)
    refine (harray.notAGuard_iff .length).2 ⟨a, rfl, [.index 0], [], hkeys, ?_, ?_⟩
    · intro k hk
      rw [List.mem_singleton.1 hk]
      exact ⟨_, f, rfl, rfl⟩
    · rintro g ⟨f', hf', -⟩
      have hlength : a.getOwn? .length = some (.number (.ofNat 1)) := rfl
      exact nomatch hlength.symm.trans hf'

end Narrowing
