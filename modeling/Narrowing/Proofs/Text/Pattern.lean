import Mathlib.Computability.RegularExpressions
/-!
# Patterns

A format of texts is described by a regular expression that the whole text has to match.  The
expressions of the library are made of single characters.  This file adds the three forms that
patterns are written with, a class of characters, an optional part and a repeated part, and says
which texts match each: a class repeated matches the texts of its characters, and so does a class
in rows of a fixed length, if the length of the text is a multiple of it.
-/

namespace Narrowing.Text

open RegularExpression Computability

variable {α : Type}

/-- One of several characters. -/
def oneOf (characters : List α) : RegularExpression α := (characters.map char).foldr (· + ·) 0

/-- The characters from one to another. -/
def charRange (first last : Char) : List Char :=
  (List.range' first.toNat (last.toNat + 1 - first.toNat)).map Char.ofNat

/-- A part that may be left out. -/
def optional (part : RegularExpression α) : RegularExpression α := 1 + part

/-- A part once or more often. -/
def repeated (part : RegularExpression α) : RegularExpression α := part * part.star

/-- Below the code points that are no characters, a range has what its ends enclose. -/
lemma mem_charRange_iff (first last : Char) (hlast : last.toNat < 0xd800) (c : Char) :
    c ∈ charRange first last ↔ first ≤ c ∧ c ≤ last := by
  have hle (a b : Char) : a ≤ b ↔ a.toNat ≤ b.toNat := Char.le_def.trans UInt32.le_iff_toNat_le
  simp only [charRange, List.mem_map, List.mem_range'_1, hle]
  constructor
  · rintro ⟨n, hn, rfl⟩
    have hn' : n.isValidChar := .inl (by omega)
    have hnat : (Char.ofNat n).toNat = n := by rw [Char.ofNat, dif_pos hn']; rfl
    omega
  · intro h
    exact ⟨c.toNat, by omega, Char.ofNat_toNat c⟩

lemma mem_char {c : α} {w : List α} : w ∈ (char c).matches' ↔ w = [c] := Iff.rfl

lemma mem_oneOf {cs w : List α} : w ∈ (oneOf cs).matches' ↔ ∃ c ∈ cs, w = [c] := by
  induction cs with
  | nil => simp [oneOf, Language.notMem_zero]
  | cons c cs ih =>
    have hcons : oneOf (c :: cs) = char c + oneOf cs := rfl
    rw [hcons, matches'_add, Language.mem_add, mem_char, ih, List.exists_mem_cons_iff]

lemma mem_optional {part : RegularExpression α} {w : List α} :
    w ∈ (optional part).matches' ↔ w = [] ∨ w ∈ part.matches' := by
  rw [optional, matches'_add, Language.mem_add, matches'_epsilon, Language.mem_one]

/-- A class repeated matches the texts of its characters. -/
lemma mem_star_oneOf {cs w : List α} : w ∈ (oneOf cs).star.matches' ↔ ∀ c ∈ w, c ∈ cs := by
  rw [matches'_star, Language.mem_kstar]
  constructor
  · rintro ⟨parts, rfl, hparts⟩ c hc
    obtain ⟨part, hpart, hc⟩ := List.mem_flatten.1 hc
    obtain ⟨d, hd, rfl⟩ := mem_oneOf.1 (hparts part hpart)
    rwa [List.mem_singleton.1 hc]
  · intro h
    refine ⟨w.map ([·]), (List.flatMap_singleton' w).symm, fun part hpart => ?_⟩
    obtain ⟨c, hc, rfl⟩ := List.mem_map.1 hpart
    exact mem_oneOf.2 ⟨c, h c hc, rfl⟩

lemma mem_repeated_oneOf {cs w : List α} :
    w ∈ (repeated (oneOf cs)).matches' ↔ w ≠ [] ∧ ∀ c ∈ w, c ∈ cs := by
  rw [repeated, matches'_mul, Language.mem_mul]
  constructor
  · rintro ⟨first, hfirst, rest, hrest, rfl⟩
    obtain ⟨c, hc, rfl⟩ := mem_oneOf.1 hfirst
    refine ⟨by simp, ?_⟩
    exact List.forall_mem_cons.2 ⟨hc, mem_star_oneOf.1 hrest⟩
  · rintro ⟨hne, hall⟩
    obtain ⟨c, rest, rfl⟩ := List.exists_cons_of_ne_nil hne
    obtain ⟨hc, hrest⟩ := List.forall_mem_cons.1 hall
    exact ⟨[c], mem_oneOf.2 ⟨c, hc, rfl⟩, rest, mem_star_oneOf.2 hrest, rfl⟩

/-- A class a fixed number of times matches the texts of that many of its characters. -/
lemma mem_oneOf_pow {cs w : List α} {n : Nat} :
    w ∈ (oneOf cs ^ n).matches' ↔ w.length = n ∧ ∀ c ∈ w, c ∈ cs := by
  rw [matches'_pow]
  induction n generalizing w with
  | zero => simp +contextual [Language.mem_one]
  | succ n ih =>
    simp only [pow_succ', Language.mem_mul, mem_oneOf, ih]
    constructor
    · rintro ⟨_, ⟨c, hc, rfl⟩, rest, ⟨rfl, hrest⟩, rfl⟩
      exact ⟨rfl, List.forall_mem_cons.2 ⟨hc, hrest⟩⟩
    · rintro ⟨hlength, hall⟩
      obtain ⟨c, rest, rfl⟩ := List.exists_cons_of_length_eq_add_one hlength
      obtain ⟨hc, hrest⟩ := List.forall_mem_cons.1 hall
      exact ⟨[c], ⟨c, hc, rfl⟩, rest, ⟨Nat.succ.inj hlength, hrest⟩, rfl⟩

/-- Rows of a fixed length one after the other match the texts whose length is a multiple. -/
lemma mem_star_oneOf_pow {cs w : List α} {n : Nat} :
    w ∈ (oneOf cs ^ n).star.matches' ↔ n ∣ w.length ∧ ∀ c ∈ w, c ∈ cs := by
  rw [matches'_star, Language.mem_kstar]
  simp only [mem_oneOf_pow]
  constructor
  · rintro ⟨rows, rfl, hrows⟩
    induction rows with
    | nil => exact ⟨Nat.dvd_zero n, fun _ h => nomatch h⟩
    | cons row rows ih =>
      obtain ⟨⟨rfl, hrow⟩, hrows⟩ := List.forall_mem_cons.1 hrows
      obtain ⟨hdvd, hall⟩ := ih hrows
      rw [List.flatten_cons, List.length_append, List.forall_mem_append]
      exact ⟨Nat.dvd_add (Nat.dvd_refl _) hdvd, hrow, hall⟩
  · rintro ⟨⟨k, hlength⟩, hall⟩
    induction k generalizing w with
    | zero => exact ⟨[], List.length_eq_zero_iff.1 hlength, fun _ h => nomatch h⟩
    | succ k ih =>
      have hn : n ≤ w.length := by rw [hlength]; exact Nat.le_mul_of_pos_right n k.succ_pos
      have hrest : (w.drop n).length = n * k := by
        rw [List.length_drop, hlength, Nat.mul_succ, Nat.add_sub_cancel]
      obtain ⟨rows, heq, hrows⟩ := ih (fun c hc => hall c (List.mem_of_mem_drop hc)) hrest
      refine ⟨w.take n :: rows, ?_, List.forall_mem_cons.2 ⟨⟨?_, ?_⟩, hrows⟩⟩
      · rw [List.flatten_cons, ← heq, List.take_append_drop]
      · exact List.length_take_of_le hn
      · exact fun c hc => hall c (List.mem_of_mem_take hc)

end Narrowing.Text
