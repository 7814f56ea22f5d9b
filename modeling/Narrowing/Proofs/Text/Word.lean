import Mathlib.Tactic.Lemma
import Narrowing.Text.Basic
/-!
# What is read into a word

A word takes digits exactly if it holds the number that they stand for.  The reader stops at the
first digit that would be too much, and this loses nothing: digits that follow never make a number
smaller, so no number on the way is greater than the last one.

A plus sign is no digit, so a text is a sign and digits in at most one way.
-/

namespace Narrowing.Text

/-- Digits that follow make a number no smaller. -/
lemma le_ofDigitChars (cs : List Char) (n : Nat) : n ≤ Nat.ofDigitChars 10 cs n := by
  have hpow : n ≤ 10 ^ cs.length * n := Nat.le_mul_of_pos_left _ (Nat.pow_pos (by decide))
  rw [Nat.ofDigitChars_eq_ofDigitChars_zero]
  omega

variable {size : Nat}

lemma pushDigit?_eq_some_iff {n m : Fin size} {c : Char} :
    pushDigit? n c = some m ↔
      c.isDigit = true ∧ 10 * n.val + (c.toNat - '0'.toNat) = m.val := by
  unfold pushDigit?
  split
  · next h => simp [h.1, Fin.ext_iff]
  · next h =>
    refine iff_of_false nofun ?_
    rintro ⟨hdigit, hvalue⟩
    exact h ⟨hdigit, hvalue ▸ m.isLt⟩

/-- Digits are read exactly if the word holds their number. -/
theorem foldlM_pushDigit?_eq_some_iff {cs : List Char} {n m : Fin size} :
    cs.foldlM pushDigit? n = some m ↔
      (∀ c ∈ cs, c.isDigit = true) ∧ Nat.ofDigitChars 10 cs n.val = m.val := by
  induction cs generalizing n with
  | nil => simp [Fin.ext_iff]
  | cons c rest ih =>
    rw [List.foldlM_cons, Option.bind_eq_bind, Option.bind_eq_some_iff, Nat.ofDigitChars_cons,
      List.forall_mem_cons]
    simp only [ih, pushDigit?_eq_some_iff]
    constructor
    · rintro ⟨next, ⟨hc, hnext⟩, hrest, hvalue⟩
      exact ⟨⟨hc, hrest⟩, hnext ▸ hvalue⟩
    · rintro ⟨⟨hc, hrest⟩, hvalue⟩
      have hnext : 10 * n.val + (c.toNat - '0'.toNat) < size :=
        Nat.lt_of_le_of_lt (le_ofDigitChars rest _) (hvalue ▸ m.isLt)
      exact ⟨⟨_, hnext⟩, ⟨hc, rfl⟩, hrest, hvalue⟩

lemma readDigits?_eq_some_iff {cs : List Char} {m : Fin size} :
    readDigits? cs = some m ↔
      cs ≠ [] ∧ (∀ c ∈ cs, c.isDigit = true) ∧ Nat.ofDigitChars 10 cs 0 = m.val := by
  unfold readDigits?
  split
  · next h => simp [h.1, foldlM_pushDigit?_eq_some_iff]
  · next h =>
    refine iff_of_false nofun ?_
    rintro ⟨hne, -⟩
    exact h ⟨hne, m.pos⟩

/-- A sign is read over. -/
theorem readWord?_eq_some_iff {cs : List Char} {m : Fin size} :
    readWord? cs = some m ↔
      ∃ sign digits, (sign = [] ∨ sign = ['+']) ∧ cs = sign ++ digits ∧ digits ≠ [] ∧
        (∀ c ∈ digits, c.isDigit = true) ∧ Nat.ofDigitChars 10 digits 0 = m.val := by
  constructor
  · intro h
    unfold readWord? at h
    split at h
    · next digits => exact ⟨['+'], digits, .inr rfl, rfl, readDigits?_eq_some_iff.1 h⟩
    · exact ⟨[], cs, .inl rfl, rfl, readDigits?_eq_some_iff.1 h⟩
  · rintro ⟨sign, digits, rfl | rfl, rfl, h⟩
    · unfold readWord?
      split
      · exact absurd (h.2.1 '+' List.mem_cons_self) (by decide)
      · exact readDigits?_eq_some_iff.2 h
    · exact readDigits?_eq_some_iff.2 h

/-- A number is read from its digits. -/
theorem readWord?_toDigits (n : Fin size) : readWord? (Nat.toDigits 10 n.val) = some n := by
  have hne : Nat.toDigits 10 n.val ≠ [] := List.ne_nil_of_length_pos Nat.length_toDigits_pos
  have hdigits : ∀ c ∈ Nat.toDigits 10 n.val, c.isDigit = true :=
    fun c hc => Nat.isDigit_of_mem_toDigits (by decide) (by decide) hc
  exact readWord?_eq_some_iff.2
    ⟨[], _, .inl rfl, rfl, hne, hdigits, Nat.ofDigitChars_ten_toDigits⟩

end Narrowing.Text
