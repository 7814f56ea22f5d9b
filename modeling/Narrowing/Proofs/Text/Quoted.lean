import Mathlib.Tactic.Lemma
import Mathlib.Tactic.SplitIfs
import Narrowing.Text.Basic
/-!
# Reading quoted text

A text between quotes can be read back without knowing which characters were visible when it was
written.  A character stands for itself, or it follows a backslash as one of six letters, or its
code point stands in braces; a quote or a backslash never stands for itself.  So no form of a
character is the beginning of a form of another one, whatever follows, and the quote that ends
the text is not the beginning of any form.
-/

namespace Narrowing.Text

/-! ### Code points in braces -/

lemma digitChar_injective : ∀ d < 16, ∀ e < 16, Nat.digitChar d = Nat.digitChar e → d = e := by
  decide

/-- Numbers are told apart by their digits. -/
lemma toDigits_injective {b m n : Nat} (hb : 1 < b) (hle : b ≤ 16)
    (h : Nat.toDigits b m = Nat.toDigits b n) : m = n := by
  induction m using Nat.strongRecOn generalizing n with
  | ind m ih =>
    have hmod (k : Nat) : k % b < 16 := Nat.lt_of_lt_of_le (Nat.mod_lt k (by omega)) hle
    by_cases hm : m < b <;> by_cases hn : n < b
    · rw [Nat.toDigits_of_lt_base hm, Nat.toDigits_of_lt_base hn] at h
      exact digitChar_injective m (by omega) n (by omega) (List.singleton_inj.1 h)
    · -- one digit against at least two
      rw [Nat.toDigits_of_lt_base hm, Nat.toDigits_of_base_le hb (Nat.le_of_not_lt hn)] at h
      have hfront := (List.append_inj' (show [] ++ [_] = _ ++ [_] from h) rfl).1
      exact (Nat.toDigits_ne_nil hfront.symm).elim
    · rw [Nat.toDigits_of_base_le hb (Nat.le_of_not_lt hm), Nat.toDigits_of_lt_base hn] at h
      have hfront := (List.append_inj' (show _ ++ [_] = [] ++ [_] from h) rfl).1
      exact (Nat.toDigits_ne_nil hfront).elim
    · rw [Nat.toDigits_of_base_le hb (Nat.le_of_not_lt hm),
        Nat.toDigits_of_base_le hb (Nat.le_of_not_lt hn)] at h
      obtain ⟨hfront, hlast⟩ := List.append_inj' h rfl
      have hdiv : m / b = n / b := ih (m / b) (Nat.div_lt_self (by omega) hb) hfront
      have hdigit : m % b = n % b :=
        digitChar_injective _ (hmod m) _ (hmod n) (List.singleton_inj.1 hlast)
      rw [← Nat.div_add_mod m b, hdiv, hdigit, Nat.div_add_mod]

lemma exists_digitChar {b n : Nat} (hb : 1 < b) {c : Char} (hc : c ∈ Nat.toDigits b n) :
    ∃ d < b, c = Nat.digitChar d := by
  induction n using Nat.strongRecOn with
  | ind n ih =>
    by_cases hn : n < b
    · rw [Nat.toDigits_of_lt_base hn, List.mem_singleton] at hc
      exact ⟨n, hn, hc⟩
    · rw [Nat.toDigits_of_base_le hb (Nat.le_of_not_lt hn), List.mem_append,
        List.mem_singleton] at hc
      rcases hc with hc | rfl
      · exact ih (n / b) (Nat.div_lt_self (by omega) hb) hc
      · exact ⟨n % b, Nat.mod_lt n (by omega), rfl⟩

lemma closingBrace_not_mem_toDigits (n : Nat) : '\x7d' ∉ Nat.toDigits 16 n := by
  intro hc
  obtain ⟨d, hd, heq⟩ := exists_digitChar (by decide) hc
  exact absurd heq (by revert d; decide)

/-- What stands before the first of a mark is the same in the same text. -/
lemma append_mark_inj {mark : Char} {cs ds x y : List Char} (hc : mark ∉ cs) (hd : mark ∉ ds)
    (h : cs ++ mark :: x = ds ++ mark :: y) : cs = ds ∧ x = y := by
  induction cs generalizing ds with
  | nil =>
    cases ds with
    | nil => exact ⟨rfl, (List.cons.inj h).2⟩
    | cons d ds => exact (hd (by simp [(List.cons.inj h).1])).elim
  | cons c cs ih =>
    cases ds with
    | nil => exact (hc (by simp [(List.cons.inj h).1])).elim
    | cons d ds =>
      obtain ⟨rfl, hrest⟩ := List.cons.inj h
      obtain ⟨rfl, rfl⟩ := ih (fun hm => hc (List.mem_cons_of_mem _ hm))
        (fun hm => hd (List.mem_cons_of_mem _ hm)) hrest
      exact ⟨rfl, rfl⟩

/-! ### The forms of a character -/

/-- The characters that are written as a letter, and their letters. -/
def letters : List (Char × Char) :=
  [('"', '"'), ('\\', '\\'), ('\n', 'n'), ('\r', 'r'), ('\t', 't'), ('\x00', '0')]

/-- The forms in which a character may be written between quotes. -/
inductive IsForm : Char → List Char → Prop
  | plain {c : Char} : c ≠ '"' → c ≠ '\\' → IsForm c [c]
  | letter {c l : Char} : (c, l) ∈ letters → IsForm c ['\\', l]
  | code (c : Char) : IsForm c ('\\' :: 'u' :: '\x7b' :: (Nat.toDigits 16 c.toNat ++ ['\x7d']))

lemma isForm_escapeWith (visible : Char → Bool) (c : Char) : IsForm c (escapeWith visible c) := by
  unfold escapeWith
  split_ifs with hquote hbackslash hbreak hreturn htab hnul
  · rw [hquote]; exact .letter (by decide)
  · rw [hbackslash]; exact .letter (by decide)
  · rw [hbreak]; exact .letter (by decide)
  · rw [hreturn]; exact .letter (by decide)
  · rw [htab]; exact .letter (by decide)
  · rw [hnul]; exact .letter (by decide)
  · exact .plain hquote hbackslash
  · exact .code c

namespace IsForm

variable {c d : Char} {cs ds x y : List Char}

/-- A letter stands for one character. -/
lemma eq_of_letter {l : Char} (hc : (c, l) ∈ letters) (hd : (d, l) ∈ letters) : c = d := by
  have hall : ∀ p ∈ letters, ∀ q ∈ letters, p.2 = q.2 → p.1 = q.1 := by decide
  exact hall _ hc _ hd rfl

lemma letter_ne_u {l : Char} (hc : (c, l) ∈ letters) : l ≠ 'u' := by
  have hall : ∀ p ∈ letters, p.2 ≠ 'u' := by decide
  exact hall _ hc

/-- Whatever follows, the form of a character says which character it is and where the form
ends. -/
lemma append_inj (hc : IsForm c cs) (hd : IsForm d ds) (h : cs ++ x = ds ++ y) : c = d ∧ x = y := by
  cases hc with
  | plain _ hbackslash =>
    cases hd with
    | plain => exact List.cons.inj h
    | letter => exact (hbackslash (List.cons.inj h).1).elim
    | code => exact (hbackslash (List.cons.inj h).1).elim
  | letter hl =>
    cases hd with
    | plain _ hbackslash => exact (hbackslash (List.cons.inj h).1.symm).elim
    | letter hm =>
      obtain ⟨rfl, hrest⟩ := List.cons.inj (List.cons.inj h).2
      exact ⟨eq_of_letter hl hm, hrest⟩
    | code => exact (letter_ne_u hl (List.cons.inj (List.cons.inj h).2).1).elim
  | code =>
    cases hd with
    | plain _ hbackslash => exact (hbackslash (List.cons.inj h).1.symm).elim
    | letter hm => exact (letter_ne_u hm (List.cons.inj (List.cons.inj h).2).1.symm).elim
    | code =>
      have hrest : Nat.toDigits 16 c.toNat ++ '\x7d' :: x = Nat.toDigits 16 d.toNat ++ '\x7d' :: y := by
        simpa using h
      obtain ⟨hdigits, rfl⟩ := append_mark_inj (closingBrace_not_mem_toDigits _)
        (closingBrace_not_mem_toDigits _) hrest
      exact ⟨Char.toNat_inj.1 (toDigits_injective (by decide) (by decide) hdigits), rfl⟩

/-- A form does not begin with the quote that ends the text. -/
lemma ne_quote (hc : IsForm c cs) : '"' :: x ≠ cs ++ y := by
  intro h
  cases hc with
  | plain hquote => exact hquote (List.cons.inj h).1.symm
  | letter => exact absurd (List.cons.inj h).1 (by decide)
  | code => exact absurd (List.cons.inj h).1 (by decide)

end IsForm

/-! ### Texts -/

variable (visible : Char → Bool)

lemma flatMap_escapeWith_inj {cs ds x y : List Char}
    (h : cs.flatMap (escapeWith visible) ++ '"' :: x = ds.flatMap (escapeWith visible) ++ '"' :: y) :
    cs = ds ∧ x = y := by
  induction cs generalizing ds with
  | nil =>
    cases ds with
    | nil => exact ⟨rfl, (List.cons.inj h).2⟩
    | cons d ds =>
      rw [List.flatMap_cons, List.append_assoc] at h
      exact ((isForm_escapeWith visible d).ne_quote h).elim
  | cons c cs ih =>
    cases ds with
    | nil =>
      rw [List.flatMap_cons, List.append_assoc] at h
      exact ((isForm_escapeWith visible c).ne_quote h.symm).elim
    | cons d ds =>
      rw [List.flatMap_cons, List.flatMap_cons, List.append_assoc, List.append_assoc] at h
      obtain ⟨rfl, hrest⟩ := (isForm_escapeWith visible c).append_inj (isForm_escapeWith visible d) h
      obtain ⟨rfl, rfl⟩ := ih hrest
      exact ⟨rfl, rfl⟩

/-- Different texts are quoted differently. -/
theorem quoteWith_injective {s t : String} (h : quoteWith visible s = quoteWith visible t) :
    s = t := by
  have hchars := String.ofList_inj.1 h
  exact String.toList_inj.1 (flatMap_escapeWith_inj visible (List.cons.inj hchars).2).1

end Narrowing.Text
