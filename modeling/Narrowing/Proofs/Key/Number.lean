import Narrowing.Proofs.Key.Naming
import Narrowing.Proofs.Number.Threshold
/-!
# Numbers as keys

A number names an index if it is a whole number in range, and otherwise the property of its
text.  Different numbers name different properties: the text of a number is a sign and what is
written of its magnitude, a magnitude is determined by what is written of it, and an index
determines the whole number that it is.  Only the two zeros, which are equal as numbers, name
the same property.
-/

namespace Narrowing

namespace Double

/-! ### The text of a number -/

/-- Whether the text of a number has a sign. -/
def isSigned : Double → Bool
  | .nan => false
  | .infinite negative => negative
  | .finite negative m => negative && m.significand != 0

/-- The text of a number without its sign. -/
def unsignedText : Double → List Char
  | .nan => ['N', 'a', 'N']
  | .infinite _ => ['I', 'n', 'f', 'i', 'n', 'i', 't', 'y']
  | .finite _ m =>
    if m.significand = 0 then ['0'] else NumberLayout.forKeys.writeDecimal m.shortest

lemma toList_keyText (x : Double) :
    x.keyText.toList = (if x.isSigned then ['-'] else []) ++ x.unsignedText := by
  rw [keyText_eq_write, String.toList_ofList]
  cases x with
  | nan => simp [NumberLayout.write, isSigned, unsignedText]
  | infinite negative =>
    cases negative <;> simp [NumberLayout.write, NumberLayout.forKeys, isSigned, unsignedText]
  | finite negative m =>
    by_cases hzero : m.significand = 0
    · simp [NumberLayout.write, NumberLayout.forKeys, isSigned, unsignedText, hzero]
    · simp [NumberLayout.write, isSigned, unsignedText, hzero]

lemma exists_unsignedText_finite (negative : Bool) (m : Magnitude) :
    ∃ c rest, (finite negative m).unsignedText = c :: rest ∧ c.isDigit = true := by
  rw [unsignedText]
  split
  · exact ⟨_, _, rfl, rfl⟩
  · exact NumberLayout.exists_writeDecimal_eq_cons _ _

lemma head?_unsignedText (x : Double) : x.unsignedText.head? ≠ some '-' := by
  cases x with
  | nan => decide
  | infinite negative => simp [unsignedText]
  | finite negative m =>
    obtain ⟨c, rest, htext, hdigit⟩ := exists_unsignedText_finite negative m
    intro hsign
    rw [htext, List.head?_cons] at hsign
    rw [Option.some.inj hsign] at hdigit
    exact absurd hdigit (by decide)

/-- A text without a sign is told apart from the sign before it. -/
lemma signed_append_inj {a b : Bool} {s t : List Char} (hs : s.head? ≠ some '-')
    (ht : t.head? ≠ some '-')
    (h : (if a then ['-'] else []) ++ s = (if b then ['-'] else []) ++ t) : a = b ∧ s = t := by
  cases a <;> cases b
  · exact ⟨rfl, h⟩
  · have hsign : s = '-' :: t := h
    exact absurd (by rw [hsign, List.head?_cons]) hs
  · have hsign : '-' :: s = t := h
    exact absurd (by rw [← hsign, List.head?_cons]) ht
  · exact ⟨rfl, (List.cons.inj h).2⟩

/-- What is read from the text of a number rounds to its magnitude. -/
lemma isRounded_read_unsignedText (negative : Bool) (m : Magnitude) :
    m.isRounded (Decimal.read (finite negative m).unsignedText).count = true := by
  rw [unsignedText]
  split
  · next hzero =>
    have hunits : m.units = 0 := by rw [Magnitude.units_eq, hzero, Nat.zero_mul]
    have hread : Decimal.read ['0'] = ⟨0, 0⟩ := by decide
    rw [hread, Decimal.count_zero, ← Magnitude.tenths_eq_zero hunits]
    exact m.isRounded_tenths
  · rw [NumberLayout.count_read_writeDecimal]
    exact m.isRounded_shortest

/-- The text of a number without its sign determines the magnitude: what is read from it rounds
to every magnitude that it is the text of. -/
lemma eq_of_unsignedText_eq {a b : Bool} {m n : Magnitude}
    (h : (finite a m).unsignedText = (finite b n).unsignedText) : m = n := by
  have hread := isRounded_read_unsignedText b n
  rw [← h] at hread
  exact Magnitude.eq_of_isRounded (isRounded_read_unsignedText a m) hread

/-- The text of an infinity begins with no digit. -/
lemma unsignedText_infinite_ne (a b : Bool) (m : Magnitude) :
    (infinite a).unsignedText ≠ (finite b m).unsignedText := by
  obtain ⟨c, rest, htext, hdigit⟩ := exists_unsignedText_finite b m
  intro h
  rw [htext, unsignedText] at h
  rw [← (List.cons.inj h).1] at hdigit
  exact absurd hdigit (by decide)

lemma keyText_eq_iff_parts (x y : Double) :
    x.keyText = y.keyText ↔ x.isSigned = y.isSigned ∧ x.unsignedText = y.unsignedText := by
  rw [← String.toList_inj, toList_keyText, toList_keyText]
  constructor
  · exact signed_append_inj (head?_unsignedText x) (head?_unsignedText y)
  · rintro ⟨hsign, htext⟩
    rw [hsign, htext]

/-- Numbers have the same text exactly if they are equal. -/
theorem keyText_eq_iff {x y : Double} (hx : x.isNaN = false) (hy : y.isNaN = false) :
    x.keyText = y.keyText ↔ x.equal y = true := by
  rw [keyText_eq_iff_parts, equal_iff]
  cases x with
  | nan => exact absurd hx (by decide)
  | infinite a =>
    cases y with
    | nan => exact absurd hy (by decide)
    | infinite b => simp [isSigned, unsignedText, isZero, isNaN]
    | finite b n => simp [unsignedText_infinite_ne, isZero]
  | finite a m =>
    cases y with
    | nan => exact absurd hy (by decide)
    | infinite b => simp [(unsignedText_infinite_ne b a m).symm, isZero]
    | finite b n =>
      constructor
      · rintro ⟨hsign, htext⟩
        obtain rfl := eq_of_unsignedText_eq htext
        by_cases hzero : m.significand = 0
        · exact .inl (by simp [isZero, hzero])
        · refine .inr ⟨rfl, ?_⟩
          have hnonzero : (m.significand != 0) = true := bne_iff_ne.2 hzero
          have hab : a = b := by simpa only [isSigned, hnonzero, Bool.and_true] using hsign
          rw [hab]
      · rintro (⟨hm, hn⟩ | ⟨-, heq⟩)
        · have hm' : m.significand = 0 := by simpa [isZero] using hm
          have hn' : n.significand = 0 := by simpa [isZero] using hn
          simp [isSigned, unsignedText, hm', hn']
        · rw [heq]
          exact ⟨rfl, rfl⟩

/-! ### Whole numbers -/

/-- A whole number is a whole count of units with its sign. -/
lemma exists_of_toInt? {x : Double} {n : Int} (h : x.toInt? = some n) :
    ∃ negative m, x = .finite negative m ∧ m.units = n.natAbs * unitsPerOne ∧
      (n ≠ 0 → (negative = true ↔ n < 0)) := by
  cases x with
  | nan => cases h
  | infinite negative => cases h
  | finite negative m =>
    refine ⟨negative, m, rfl, ?_⟩
    simp only [toInt?] at h
    split at h
    · next hmod =>
      have hunits : m.units = m.units / unitsPerOne * unitsPerOne :=
        (Nat.div_mul_cancel (Nat.dvd_of_mod_eq_zero hmod)).symm
      generalize m.units / unitsPerOne = k at h hunits
      have hn := Option.some.inj h
      cases negative with
      | false =>
        have hk : n.natAbs = k := by rw [← hn]; simp
        exact ⟨hk ▸ hunits, fun _ => by rw [← hn]; simp⟩
      | true =>
        have hk : n.natAbs = k := by rw [← hn]; simp
        refine ⟨hk ▸ hunits, fun hne => ?_⟩
        rw [if_pos rfl] at hn
        simp only [true_iff]
        omega
    · cases h

/-- Numbers that are the same whole number are equal. -/
lemma equal_of_toInt?_eq {x y : Double} {n : Int} (hx : x.toInt? = some n)
    (hy : y.toInt? = some n) : x.equal y = true := by
  obtain ⟨a, m, rfl, hm, ha⟩ := exists_of_toInt? hx
  obtain ⟨b, m', rfl, hm', hb⟩ := exists_of_toInt? hy
  obtain rfl := Magnitude.eq_of_units_eq (hm.trans hm'.symm)
  rw [equal_iff]
  by_cases hzero : n = 0
  · have hunits : m.units = 0 := by rw [hm, hzero, Int.natAbs_zero, Nat.zero_mul]
    exact .inl (by simp [isZero, Magnitude.significand_eq_zero hunits])
  · refine .inr ⟨rfl, ?_⟩
    have hab : a = b := Bool.eq_iff_iff.2 ((ha hzero).trans (hb hzero).symm)
    rw [hab]

lemma toInt?_of_isZero {x : Double} (h : x.isZero = true) : x.toInt? = some 0 := by
  cases x with
  | nan => exact nomatch h
  | infinite negative => exact nomatch h
  | finite negative m =>
    have hsignificand : m.significand = 0 := by simpa [isZero] using h
    have hunits : m.units = 0 := by rw [Magnitude.units_eq, hsignificand, Nat.zero_mul]
    simp [toInt?, hunits]

end Double

namespace Key

/-- A number names the index that it is, or its text. -/
lemma ofDouble_cases (x : Double) :
    (∃ n : Int, x.toInt? = some n ∧ n.toNat < indexLimit ∧ 0 ≤ n ∧
      ofDouble x = .index (UInt32.ofNat n.toNat)) ∨ ofDouble x = .string x.keyText := by
  unfold ofDouble
  split
  · next n hn =>
    split
    · next hrange => exact .inl ⟨n, hn, by omega, hrange.1, rfl⟩
    · exact .inr rfl
  · exact .inr rfl

/-- Equal numbers name the same property. -/
lemma ofDouble_congr {x y : Double} (h : x.equal y = true) : ofDouble x = ofDouble y := by
  rcases (Double.equal_iff x y).1 h with ⟨hx, hy⟩ | ⟨-, rfl⟩
  · have hindex {z : Double} (hz : z.isZero = true) : ofDouble z = .index 0 := by
      rw [ofDouble, Double.toInt?_of_isZero hz]
      exact if_pos (by decide)
    rw [hindex hx, hindex hy]
  · rfl

/-- Numbers name the same property exactly if they are equal. -/
theorem ofDouble_eq_iff {x y : Double} (hx : x.isNaN = false) (hy : y.isNaN = false) :
    ofDouble x = ofDouble y ↔ x.equal y = true := by
  refine ⟨fun h => ?_, ofDouble_congr⟩
  rcases ofDouble_cases x with ⟨m, hm, hmlimit, hmsign, hxkey⟩ | hxkey <;>
    rcases ofDouble_cases y with ⟨n, hn, hnlimit, hnsign, hykey⟩ | hykey <;>
    rw [hxkey, hykey] at h
  · have hnat : m.toNat = n.toNat := by
      rw [← toNat_ofNat_of_lt_indexLimit hmlimit, ← toNat_ofNat_of_lt_indexLimit hnlimit,
        Key.index.inj h]
    have hmn : m = n := by omega
    exact Double.equal_of_toInt?_eq hm (hmn ▸ hn)
  · exact Key.noConfusion h
  · exact Key.noConfusion h
  · exact (Double.keyText_eq_iff hx hy).1 (Key.string.inj h)

end Key

/-- **Number keys do not collide.**  Every number but NaN names a property.  Two of them name
the same one exactly if they are equal as numbers, and exactly then they have the same
text. -/
theorem number_keys_never_collide {γ : Type} {x y : Double} (hx : x.isNaN = false)
    (hy : y.isNaN = false) :
    (Value.number x : Value γ).key? = some (.ofDouble x) ∧
      ((Value.number x : Value γ).key? = (Value.number y : Value γ).key? ↔ x.equal y = true) ∧
      (x.keyText = y.keyText ↔ x.equal y = true) := by
  refine ⟨Value.key?_number hx, ?_, Double.keyText_eq_iff hx hy⟩
  rw [Value.key?_number hx, Value.key?_number hy, Option.some_inj]
  exact Key.ofDouble_eq_iff hx hy

/-- The least number that is written with an exponent and the number before it name different
properties, and the two zeros name one. -/
theorem number_keys_never_collide_at_exponents :
    let x := Double.ofBits 0x444b1ae4d6e2ef50
    let y := Double.ofBits 0x444b1ae4d6e2ef4f
    let zero := Double.ofBits 0x8000000000000000
    x.isNaN = false ∧ y.isNaN = false ∧ zero.isNaN = false ∧
      (Value.number x : Value Unit).key? ≠ (Value.number y : Value Unit).key? ∧
      x.keyText ≠ y.keyText ∧
      (Value.number zero : Value Unit).key? = (Value.number .zero : Value Unit).key? := by
  intro x y zero
  have hx : x.isNaN = false := by decide +kernel
  have hy : y.isNaN = false := by decide +kernel
  have hzero : zero.isNaN = false := by decide +kernel
  have hne : ¬ x.equal y = true := by decide +kernel
  have heq : zero.equal .zero = true := by decide +kernel
  obtain ⟨-, hkeys, htexts⟩ := number_keys_never_collide (γ := Unit) hx hy
  refine ⟨hx, hy, hzero, fun h => hne (hkeys.1 h), fun h => hne (htexts.1 h), ?_⟩
  exact (number_keys_never_collide hzero rfl).2.1.2 heq

end Narrowing
