import Mathlib.Data.List.Infix
import Mathlib.Tactic.Lemma
/-!
# Occurrences of a text

How often a text occurs in another is how many places of the other it begins at, so that
occurrences may overlap.  An occurrence does not reach over a character that is not in it, which
is how occurrences are counted piece by piece.
-/

namespace Narrowing.Text

/-- The number of places at which a row of characters occurs in another. -/
def countIn (pattern cs : List Char) : Nat := cs.tails.countP (pattern.isPrefixOf ·)

/-- The number of places at which a text occurs in another. -/
def occurrences (pattern text : String) : Nat := countIn pattern.toList text.toList

variable {pattern s : List Char} {c : Char}

lemma countIn_cons (pattern : List Char) (c : Char) (cs : List Char) :
    countIn pattern (c :: cs) =
      countIn pattern cs + if pattern.isPrefixOf (c :: cs) then 1 else 0 := by
  rw [countIn, List.tails_cons, List.countP_cons, countIn]

/-- What lacks a character of the pattern does not have the pattern. -/
lemma countIn_eq_zero (hc : c ∈ pattern) (hs : c ∉ s) : countIn pattern s = 0 := by
  rw [countIn, List.countP_eq_zero]
  intro t ht hstarts
  have hsuffix : t <:+ s := (List.mem_tails t s).1 ht
  exact hs (hsuffix.subset ((List.isPrefixOf_iff_prefix.1 hstarts).subset hc))

/-- No occurrence begins in what lacks the first character of the pattern. -/
lemma countIn_append_of_not_mem {rest : List Char} (hs : c ∉ s) (t : List Char) :
    countIn (c :: rest) (s ++ t) = countIn (c :: rest) t := by
  induction s with
  | nil => rfl
  | cons d s ih =>
    obtain ⟨hd, hs⟩ := not_or.1 (List.mem_cons.not.1 hs)
    have hstarts : ¬ (c :: rest).isPrefixOf (d :: (s ++ t)) = true := by
      rw [List.isPrefixOf_iff_prefix, List.cons_prefix_cons]
      exact fun h => hd h.1
    rw [List.cons_append, countIn_cons, if_neg hstarts, Nat.add_zero, ih hs]

/-- The only occurrence is at the one place where the first character of the pattern is. -/
lemma countIn_append_cons_of_not_mem {rest t : List Char} (hs : c ∉ s) (ht : c ∉ t) :
    countIn (c :: rest) (s ++ c :: t) = if (c :: rest).isPrefixOf (c :: t) then 1 else 0 := by
  rw [countIn_append_of_not_mem hs, countIn_cons, countIn_eq_zero List.mem_cons_self ht,
    Nat.zero_add]

/-- A prefix that lacks a character ends before it. -/
lemma prefix_append_cons_iff (hc : c ∉ pattern) (s t : List Char) :
    pattern <+: s ++ c :: t ↔ pattern <+: s := by
  induction s generalizing pattern with
  | nil =>
    cases pattern with
    | nil => simp
    | cons a rest =>
      have hne : a ≠ c := fun h => hc (h ▸ List.mem_cons_self)
      simp [List.cons_prefix_cons, hne]
  | cons d s ih =>
    cases pattern with
    | nil => simp
    | cons a rest =>
      rw [List.cons_append, List.cons_prefix_cons, List.cons_prefix_cons,
        ih fun h => hc (List.mem_cons_of_mem _ h)]

/-- No occurrence reaches over a character that the pattern lacks. -/
lemma countIn_append_cons (hne : pattern ≠ []) (hc : c ∉ pattern) (s t : List Char) :
    countIn pattern (s ++ c :: t) = countIn pattern s + countIn pattern t := by
  have hstarts (s : List Char) :
      pattern.isPrefixOf (s ++ c :: t) = pattern.isPrefixOf s := by
    rw [Bool.eq_iff_iff, List.isPrefixOf_iff_prefix, List.isPrefixOf_iff_prefix]
    exact prefix_append_cons_iff hc s t
  induction s with
  | nil =>
    have hnil : pattern.isPrefixOf [] = false := by
      rwa [Bool.eq_false_iff, ne_eq, List.isPrefixOf_iff_prefix, List.prefix_nil]
    have hstart : pattern.isPrefixOf (c :: t) = false := (hstarts []).trans hnil
    simp [countIn, hnil, hstart]
  | cons d s ih =>
    rw [List.cons_append, countIn_cons, countIn_cons, ih, ← List.cons_append, hstarts]
    omega

end Narrowing.Text
