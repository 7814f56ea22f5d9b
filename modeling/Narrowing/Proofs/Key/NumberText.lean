import Narrowing.Proofs.Guard.Boxed
import Narrowing.Proofs.Key.Number
import Narrowing.Proofs.Key.Text
import Narrowing.Proofs.Number.WholeText
/-!
# A number and its text

There are two ways from a number to a property.  A number is tested for being a whole number in
range, and a text for being a numeral in range, and neither test looks at the other form.  Here
the two are shown to agree: a number names the property that its text names.

A number in range is written as its numeral, so its text passes the test.  Conversely a text that
passes is also the text of the whole number that it is the numeral of, and numbers with the same
text are equal.  Every other number is a text as a key, and so is its text.
-/

namespace Narrowing

variable {γ : Type}

namespace Double

/-- A number is written as a numeral in range exactly if it is that number. -/
lemma keyText_eq_toString_iff {x : Double} (hx : x.isNaN = false) {n : Nat} (hn : n < 2 ^ 53) :
    x.keyText = toString n ↔ x.equal (ofNat n) = true := by
  rw [← keyText_ofNat hn]
  exact keyText_eq_iff hx (isNaN_ofNat hn)

end Double

namespace Key

lemma lt_of_lt_indexLimit {n : Nat} (h : n < indexLimit) : n < 2 ^ 53 :=
  Nat.lt_trans h (by decide)

/-- The test of a number: it names an index exactly if it is that whole number. -/
theorem ofDouble_eq_index_iff (x : Double) (n : UInt32) :
    ofDouble x = .index n ↔ n.toNat < indexLimit ∧ x.toInt? = some (n.toNat : Int) := by
  constructor
  · intro h
    rcases ofDouble_cases x with ⟨k, hint, hlimit, hsign, hkey⟩ | hkey
    · rw [hkey] at h
      rw [← Key.index.inj h, toNat_ofNat_of_lt_indexLimit hlimit, Int.toNat_of_nonneg hsign]
      exact ⟨hlimit, hint⟩
    · rw [hkey] at h
      exact Key.noConfusion h
  · rintro ⟨hlimit, hint⟩
    have hrange : (0 : Int) ≤ n.toNat ∧ (n.toNat : Int) < indexLimit := by omega
    rw [ofDouble, hint]
    simp [hrange]

/-- A number with the text of an index names the index. -/
lemma ofDouble_of_keyText {x : Double} (hx : x.isNaN = false) {n : Nat} (hn : n < indexLimit)
    (htext : x.keyText = toString n) : ofDouble x = ofNat n := by
  have hequal : x.equal (.ofNat n) = true :=
    (Double.keyText_eq_toString_iff hx (lt_of_lt_indexLimit hn)).1 htext
  rw [ofDouble_congr hequal, ofDouble_ofNat_of_lt hn]

/-- A number that is an index has the text of the index. -/
lemma isNumeral_keyText {x : Double} (hx : x.isNaN = false) {n : UInt32}
    (h : ofDouble x = .index n) : IsNumeral x.keyText := by
  obtain ⟨hlimit, hint⟩ := (ofDouble_eq_index_iff x n).1 h
  have hlt := lt_of_lt_indexLimit hlimit
  refine ⟨n.toNat, hlimit, (Double.keyText_eq_toString_iff hx hlt).2 ?_⟩
  exact Double.equal_of_toInt?_eq hint (Double.toInt?_ofNat hlt)

/-- A number names what its text names. -/
theorem ofDouble_eq_ofString {x : Double} (hx : x.isNaN = false) :
    ofDouble x = ofString x.keyText := by
  by_cases h : IsNumeral x.keyText
  · obtain ⟨n, hlimit, htext⟩ := h
    rw [ofDouble_of_keyText hx hlimit htext, htext, ofString_toString]
  · rcases ofDouble_cases x with ⟨n, -, -, -, hkey⟩ | hkey
    · exact absurd (isNumeral_keyText hx hkey) h
    · rw [hkey, ofString_of_not_isNumeral h]

end Key

/-- The value is the primitive or an object that boxes it, whatever else the object has. -/
inductive Primitive.IsHeldBy (q : Primitive) : Value γ → Prop
  | plain : IsHeldBy q q.value
  | boxed (o : Object γ) : o.content = q.content → IsHeldBy q (.object o)

/-- What boxes a primitive names what the primitive names. -/
lemma Primitive.IsHeldBy.key?_eq {q : Primitive} {v : Value γ} (h : q.IsHeldBy v) :
    v.key? = (q.value : Value γ).key? := by
  cases h with
  | plain => rfl
  | boxed o hcontent =>
    obtain ⟨identity, content, parent, properties⟩ := o
    obtain rfl : content = q.content := hcontent
    cases q <;> rfl

/-- **A number and its text name the same property**, each as it stands or in a box.  What they
name is an index exactly if the number is a whole number below the greatest 32-bit number, and
then it is that number; both zeros are index zero. -/
theorem number_names_what_its_text_names {x : Double} (hx : x.isNaN = false) {v w : Value γ}
    (hv : (Primitive.number x).IsHeldBy v) (hw : (Primitive.string x.keyText).IsHeldBy w) :
    ∃ key, v.key? = some key ∧ w.key? = some key ∧
      (∀ n : UInt32, key = .index n ↔
        n.toNat < 2 ^ 32 - 1 ∧ x.toInt? = some (n.toNat : Int)) ∧
      (x.isZero = true → key = .index 0) := by
  refine ⟨.ofDouble x, ?_, ?_, Key.ofDouble_eq_index_iff x, ?_⟩
  · exact hv.key?_eq.trans (Value.key?_number hx)
  · rw [Key.ofDouble_eq_ofString hx]
    exact hw.key?_eq.trans (Value.key?_string x.keyText)
  · intro hzero
    exact (Key.ofDouble_eq_index_iff x 0).2 ⟨by decide, Double.toInt?_of_isZero hzero⟩

/-- Negative zero in a box names index zero, as does its text, and the greatest 32-bit number
names no index. -/
theorem number_names_what_its_text_names_at_ends :
    let zero := Double.ofBits 0x8000000000000000
    let limit := Double.ofBits 0x41efffffffe00000
    let box : Object Unit := .mk 0 (.boxedNumber zero) none []
    (Value.object box).key? = some (.index 0) ∧
      (Value.string zero.keyText : Value Unit).key? = some (.index 0) ∧
      limit.toInt? = some 4294967295 ∧
      ∀ n : UInt32, (Value.number limit : Value Unit).key? ≠ some (.index n) := by
  intro zero limit box
  have hzero : zero.isNaN = false := by decide +kernel
  have hlimit : limit.isNaN = false := by decide +kernel
  have hint : limit.toInt? = some 4294967295 := by decide +kernel
  obtain ⟨key, hbox, htext, -, hindex⟩ := number_names_what_its_text_names hzero
    (.boxed box rfl) (.plain (γ := Unit))
  obtain rfl := hindex (by decide +kernel)
  obtain ⟨other, hnumber, -, hiff, -⟩ := number_names_what_its_text_names hlimit
    (.plain (γ := Unit)) (.plain (γ := Unit))
  refine ⟨hbox, htext, hint, fun n hn => ?_⟩
  obtain rfl := Option.some.inj (hnumber.symm.trans hn)
  obtain ⟨hlt, hnat⟩ := (hiff n).1 rfl
  rw [hint, Option.some_inj] at hnat
  omega

end Narrowing
