import Narrowing.Guard.Evaluate
import Narrowing.Proofs.Number.Whole
import Narrowing.Proofs.Text.Word
import Narrowing.Proofs.Value.FunctionKeys
/-!
# Naming a property by a whole number

A property with a 32-bit number for a name is reached in several ways: by the number as an
index, by the number as a size, by its numeral, and by a value that is the number, boxes it,
or is its numeral.  Each way but the first decides for itself whether the number is an index,
and they all decide alike: `Key.ofNat` says which key they give.  The first way takes the
number as it stands.  So all ways agree below `Key.indexLimit`, and at the limit itself the
index is a key of its own.

Where two ways give the same key, a property that was stored in one way is found in the
other.
-/

namespace Narrowing

variable {γ : Type}

namespace Key

/-! ### Numerals -/

lemma toList_toString (n : Nat) : (toString n).toList = Nat.toDigits 10 n := by
  rw [Nat.toString_eq_ofList_toDigits, String.toList_ofList]

/-- The number that a decimal numeral without sign or leading zeros stands for. -/
def numeral? (s : String) : Option Nat :=
  let n := Nat.ofDigitChars 10 s.toList 0
  if Nat.toDigits 10 n = s.toList then some n else none

lemma numeral?_toString (n : Nat) : numeral? (toString n) = some n := by
  rw [numeral?, toList_toString, Nat.ofDigitChars_ten_toDigits]
  exact if_pos rfl

/-- A numeral is read as its number. -/
lemma map_readWord?_toDigits (n : UInt32) :
    (Text.readWord? (Nat.toDigits 10 n.toNat)).map UInt32.ofFin = some n := by
  have hread : Text.readWord? (Nat.toDigits 10 n.toNat) = some n.toFin :=
    Text.readWord?_toDigits n.toFin
  rw [hread, Option.map_some, UInt32.ofFin_toFin]

/-- What a text is read as counts only if the text is its numeral, and then nothing else can be
read. -/
theorem canonicalIndex?_eq_some_iff (s : String) (n : UInt32) :
    canonicalIndex? s = some n ↔ n.toNat < indexLimit ∧ s = toString n.toNat := by
  have hsize : n.toNat < indexLimit + 1 := n.toNat_lt
  rw [canonicalIndex?, Option.filter_eq_some_iff, decide_eq_true_eq]
  constructor
  · rintro ⟨-, hlimit, htext⟩
    exact ⟨by omega, by rw [Nat.toString_eq_ofList_toDigits, htext, String.ofList_toList]⟩
  · rintro ⟨hlimit, rfl⟩
    rw [toList_toString]
    exact ⟨map_readWord?_toDigits n, Nat.ne_of_lt hlimit, rfl⟩

/-- A text names an index exactly if it is its numeral. -/
theorem ofString_eq_index_iff (s : String) (n : UInt32) :
    ofString s = .index n ↔ n.toNat < indexLimit ∧ s = toString n.toNat := by
  rw [← canonicalIndex?_eq_some_iff, ofString]
  cases canonicalIndex? s <;> simp

/-- A text that is no numeral of an index names itself. -/
lemma ofString_eq_string_iff (s : String) :
    ofString s = .string s ↔ ∀ n : UInt32, n.toNat < indexLimit → s ≠ toString n.toNat := by
  rw [ofString]
  cases h : canonicalIndex? s with
  | none =>
    refine iff_of_true rfl fun n hlimit hs => ?_
    rw [(canonicalIndex?_eq_some_iff s n).2 ⟨hlimit, hs⟩] at h
    exact nomatch h
  | some n =>
    obtain ⟨hlimit, hs⟩ := (canonicalIndex?_eq_some_iff s n).1 h
    exact iff_of_false Key.noConfusion fun hall => hall n hlimit hs

lemma toString_injective {m n : Nat} (h : toString m = toString n) : m = n := by
  have hnumber := numeral?_toString m
  rw [h, numeral?_toString] at hnumber
  exact (Option.some.inj hnumber).symm

/-- A numeral names what its number names. -/
theorem ofString_toString (n : Nat) : ofString (toString n) = ofNat n := by
  rw [ofNat]
  split
  · next hlimit =>
    have hword : (UInt32.ofNat n).toNat = n :=
      UInt32.toNat_ofNat_of_lt' (Nat.lt_trans hlimit (by decide))
    rw [ofString_eq_index_iff, hword]
    exact ⟨hlimit, rfl⟩
  · next hlimit =>
    rw [← Nat.toString_eq_ofList_toDigits, ofString_eq_string_iff]
    intro k hk heq
    exact hlimit (toString_injective heq ▸ hk)

/-! ### Numbers -/

lemma ofDouble_ofNat_of_lt {n : Nat} (h : n < indexLimit) :
    ofDouble (.ofNat n) = ofNat n := by
  have hint : (Double.ofNat n).toInt? = some (n : Int) :=
    Double.toInt?_ofNat (Nat.lt_trans h (by decide))
  have hrange : (0 : Int) ≤ n ∧ (n : Int) < indexLimit := by omega
  rw [ofDouble, hint, ofNat, if_pos h]
  simp [hrange]

/-- The limit is no index, and its text is its numeral. -/
lemma ofDouble_ofNat_indexLimit : ofDouble (.ofNat indexLimit) = ofNat indexLimit := by
  decide +kernel

/-- A number up to the limit names what the whole number names. -/
theorem ofDouble_ofNat {n : Nat} (h : n ≤ indexLimit) : ofDouble (.ofNat n) = ofNat n := by
  rcases Nat.lt_or_eq_of_le h with hlt | rfl
  · exact ofDouble_ofNat_of_lt hlt
  · exact ofDouble_ofNat_indexLimit

lemma toNat_le_indexLimit (n : UInt32) : n.toNat ≤ indexLimit := Nat.le_of_lt_succ n.toNat_lt

/-- A 32-bit number is the index that it names exactly below the limit. -/
lemma ofNat_toNat_eq_index_iff (n : UInt32) : ofNat n.toNat = .index n ↔ n.toNat < indexLimit := by
  unfold ofNat
  split
  · next h => simp [h]
  · next h => simp [h]

end Key

/-! ### Values as keys -/

namespace Value

lemma key?_number {x : Double} (h : x.isNaN = false) :
    (number x : Value γ).key? = some (.ofDouble x) := by
  simp [key?, symbol?, string?, number?, h]

lemma key?_boxedNumber {x : Double} (h : x.isNaN = false) (identity : Nat)
    (parent : Option (Object γ)) (properties : Table (Value γ)) :
    (object (.mk identity (.boxedNumber x) parent properties)).key? = some (.ofDouble x) := by
  simp [key?, symbol?, string?, number?, h]

lemma key?_string (s : String) : (string s : Value γ).key? = some (.ofString s) := rfl

end Value

/-! ### The ways to name a property -/

/-- A value that stands for a number. -/
inductive NumberForm (γ : Type) where
  /-- The number. -/
  | plain
  /-- An object that boxes the number. -/
  | boxed (identity : Nat) (parent : Option (Object γ)) (properties : Table (Value γ))
  /-- The numeral of the number. -/
  | numeral

/-- The value that stands for a number. -/
def NumberForm.value (n : UInt32) : NumberForm γ → Value γ
  | plain => .number (.ofNat n.toNat)
  | boxed identity parent properties =>
    .object (.mk identity (.boxedNumber (.ofNat n.toNat)) parent properties)
  | numeral => .string (toString n.toNat)

/-- A way to name a property by a number. -/
inductive Naming (γ : Type) where
  /-- The number as an index. -/
  | word
  /-- The number as a size. -/
  | size
  /-- The numeral as a text. -/
  | text
  /-- A value that stands for the number. -/
  | value (form : NumberForm γ)

namespace Naming

/-- The key that is named. -/
def key? (n : UInt32) : Naming γ → Option Key
  | word => some (.index n)
  | size => some (.ofNat n.toNat)
  | text => some (.ofString (toString n.toNat))
  | value form => (form.value n).key?

lemma key?_value (n : UInt32) (form : NumberForm γ) :
    (form.value n).key? = some (.ofNat n.toNat) := by
  have hnan : (Double.ofNat n.toNat).isNaN = false :=
    Double.isNaN_ofNat (Nat.lt_trans n.toNat_lt (by decide))
  have hdouble : Key.ofDouble (.ofNat n.toNat) = .ofNat n.toNat :=
    Key.ofDouble_ofNat (Key.toNat_le_indexLimit n)
  cases form with
  | plain => rw [NumberForm.value, Value.key?_number hnan, hdouble]
  | boxed identity parent properties =>
    rw [NumberForm.value, Value.key?_boxedNumber hnan, hdouble]
  | numeral => rw [NumberForm.value, Value.key?_string, Key.ofString_toString]

lemma key?_of_ne_word (n : UInt32) {a : Naming γ} (ha : a ≠ word) :
    a.key? n = some (.ofNat n.toNat) := by
  cases a with
  | word => exact absurd rfl ha
  | size => rfl
  | text => rw [key?, Key.ofString_toString]
  | value form => rw [key?, key?_value]

/-- Two ways agree below the limit, and at the limit if both or neither take the number as an
index. -/
lemma key?_eq_iff (n : UInt32) (a b : Naming γ) :
    a.key? n = b.key? n ↔ n.toNat < Key.indexLimit ∨ (a = word ↔ b = word) := by
  have hword : (word : Naming γ).key? n = some (.index n) := rfl
  by_cases ha : a = word <;> by_cases hb : b = word
  · simp [ha, hb]
  · simp [ha, hb, hword, key?_of_ne_word n hb, ← Key.ofNat_toNat_eq_index_iff, eq_comm]
  · simp [ha, hb, hword, key?_of_ne_word n ha, ← Key.ofNat_toNat_eq_index_iff]
  · simp [ha, hb, key?_of_ne_word n ha, key?_of_ne_word n hb]

lemma exists_key?_eq (n : UInt32) (a : Naming γ) : ∃ key, a.key? n = some key := by
  by_cases ha : a = word
  · exact ⟨_, by rw [ha]; rfl⟩
  · exact ⟨_, key?_of_ne_word n ha⟩

end Naming

/-! ### Stored properties -/

/-- A step in building the value stored a property under the key. -/
inductive Stores (key : Key) : Value γ → Prop
  | object {content : Content γ} {parent : ParentChoice γ} {history : List (ObjectStep γ)}
      {supply : Supply} {value : Value γ} :
      .property key value ∈ history →
      Stores key
        (.object ((ObjectBuilder.steps { content, parent } history).build.run supply).1)
  | function {name : String} {history : List (ClassStep γ)} {supply : Supply}
      {value : Value γ} :
      .static key value ∈ history →
      Stores key (.function ((Function.ofClass name history).run supply).1)

lemma Stores.hasOwn {key : Key} {container : Value γ} (h : Stores key container) :
    container.hasOwn key = true := by
  cases h with
  | @object content parent history supply _ hstep =>
    have hkeys : ((ObjectBuilder.steps { content, parent } history).build.run
        supply).1.properties.keys = insertedKeys ObjectStep.key? history :=
      ObjectBuilder.keys_properties_steps rfl history
    refine Object.hasOwn_of_mem_properties ?_
    rw [hkeys]
    exact mem_insertedKeys _ hstep rfl
  | @function name history supply _ hstep =>
    have hkeys : ((Function.ofClass name history).run supply).1.statics.keys =
        insertedKeys ClassStep.staticKey? history :=
      (Function.Origin.ofClass name history).keys_statics_make supply
    refine (Function.isSome_getOwn?_iff _ key).2 (Or.inr ?_)
    rw [hkeys]
    exact mem_insertedKeys _ hstep rfl

lemma Stores.hasProperty {key : Key} {container : Value γ} (h : Stores key container) :
    container.hasProperty key = true := by
  have hown := h.hasOwn
  cases h with
  | object => simp [Value.hasProperty, Value.isNullish, hown]
  | function => simp [Value.hasProperty, Value.isNullish, hown]

open Guard (check narrow)

/-- A property is found under a name: the value has it, and a value that stands for the number
is among the names of its properties. -/
structure Naming.Finds (p : Predicates) (n : UInt32) (a : Naming Guard)
    (container : Value Guard) : Prop where
  has : ∀ key, a.key? n = some key → (check p (.has key) container).result = true
  isKeyOf : ∀ form, a = .value form → ∃ key, a.key? n = some key ∧
    (narrow p (.isKeyOf container) (form.value n)).result = some (.key key)

lemma Naming.finds_of_stores {p : Predicates} {n : UInt32} {a : Naming Guard} {key : Key}
    {container : Value Guard} (hkey : a.key? n = some key) (h : Stores key container) :
    a.Finds p n container where
  has other hother := by
    obtain rfl := Option.some.inj (hkey.symm.trans hother)
    exact h.hasProperty
  isKeyOf form hform := by
    subst hform
    refine ⟨key, hkey, ?_⟩
    have hvalue : (form.value n).key? = some key := hkey
    simp [narrow, Guard.keyOf, hvalue, h.hasProperty]

/-- **The ways to name a property by a number agree.**  Two ways give the same key exactly if
the number is an index, or if both or neither of them take it as one unseen.  Where they do,
what is stored in the one way is found in the other. -/
theorem namings_agree_iff (p : Predicates) (n : UInt32) (a b : Naming Guard) :
    (a.key? n = b.key? n ↔ n.toNat < Key.indexLimit ∨ (a = .word ↔ b = .word)) ∧
      ∃ key, a.key? n = some key ∧
        (a.key? n = b.key? n → ∀ container, Stores key container → b.Finds p n container) := by
  obtain ⟨key, hkey⟩ := a.exists_key?_eq n
  refine ⟨Naming.key?_eq_iff n a b, key, hkey, ?_⟩
  intro heq container hstores
  exact Naming.finds_of_stores (heq ▸ hkey) hstores

/-- A property that is stored under the last index is found by a boxed number. -/
theorem namings_agree_of_last_index :
    let history : List (ObjectStep Guard) := [.property (.index 4294967294) .null]
    let o := ((ObjectBuilder.steps { content := .ordinary } history).build.run {}).1
    (Naming.value (.boxed 0 none [])).Finds (fun _ _ => pure false) 4294967294 (.object o) := by
  intro history o
  have hagree := namings_agree_iff (fun _ _ => pure false) 4294967294 .word
    (.value (.boxed 0 none []))
  obtain ⟨hiff, key, hkey, hfinds⟩ := hagree
  obtain rfl := Option.some.inj hkey
  exact hfinds (hiff.2 (Or.inl (by decide))) _ (.object (List.mem_singleton.2 rfl))

/-- The greatest 32-bit number names one property as an index and another as a text, and what
is stored under the index is not found under the text. -/
theorem namings_differ_at_limit :
    let history : List (ObjectStep Guard) := [.property (.index 4294967295) .null]
    let o := ((ObjectBuilder.steps { content := .ordinary } history).build.run {}).1
    (Naming.word : Naming Guard).key? 4294967295 = some (.index 4294967295) ∧
      (Naming.text : Naming Guard).key? 4294967295 = some (.string "4294967295") ∧
      (check (fun _ _ => pure false) (.has (.ofString "4294967295")) (.object o)).result =
        false := by
  decide +kernel

end Narrowing
