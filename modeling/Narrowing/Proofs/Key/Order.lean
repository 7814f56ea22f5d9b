import Mathlib.Tactic.Lemma
import Mathlib.Data.List.Nodup
import Narrowing.Value.Property
/-!
# The order of listed keys

Own keys are listed by a stable sort: indices by number, then texts, then symbols, and two
texts or two symbols as they came.  This file shows what the sort does to any keys.  The texts
and the symbols of the sorted list are those of the list itself, in the same order, and they
follow the indices, which ascend strictly if no key comes twice.

`Key.Listed` says that keys are in this order, where some leading texts come before the
others.
-/

namespace Narrowing

namespace Key

/-- Whether the key is an index. -/
def isIndex (k : Key) : Bool := k.index?.isSome

/-- Whether the key is a text. -/
def isText (k : Key) : Bool := k.string?.isSome

/-- Keys in the order in which own keys are listed: indices in strictly ascending order, then
texts, the leading ones first and the others as they were inserted, and then symbols as they
were inserted. -/
def Listed (leading inserted keys : List Key) : Prop :=
  ∃ indices : List UInt32, indices.Pairwise (· < ·) ∧
    keys = indices.map .index ++
      (leading ++ inserted.filter fun k => k.isText && !leading.contains k) ++
      inserted.filter isSymbol

/-! ### The order of two keys -/

lemma precedes_trans (a b c : Key) (hab : a.precedes b = true) (hbc : b.precedes c = true) :
    a.precedes c = true := by
  cases a <;> cases b <;> cases c <;> simp_all [precedes, rank]
  exact Nat.le_trans hab hbc

lemma precedes_total (a b : Key) : (a.precedes b || b.precedes a) = true := by
  cases a <;> cases b <;> simp [precedes, rank]
  exact Nat.le_total _ _

lemma precedes_of_isText {a b : Key} (ha : a.isText = true) (hb : b.isText = true) :
    a.precedes b = true := by
  cases a <;> cases b <;> simp_all [isText, string?, precedes, rank]

lemma precedes_of_isSymbol {a b : Key} (ha : a.isSymbol = true) (hb : b.isSymbol = true) :
    a.precedes b = true := by
  cases a <;> cases b <;> simp_all [isSymbol, precedes, rank]

/-- No index comes after a key that is none. -/
lemma isIndex_of_precedes {a b : Key} (hab : a.precedes b = true) (ha : a.isIndex = false) :
    b.isIndex = false := by
  cases a <;> cases b <;> simp_all [isIndex, index?, precedes, rank]

/-- No text comes after a symbol. -/
lemma isText_of_precedes {a b : Key} (hab : a.precedes b = true) (ha : a.isSymbol = true) :
    b.isText = false := by
  cases a <;> cases b <;> simp_all [isText, isSymbol, string?, precedes, rank]

end Key

open Key

/-! ### Sorting keys -/

lemma sortKeys_perm (keys : List Key) : (sortKeys keys).Perm keys :=
  List.mergeSort_perm keys precedes

lemma pairwise_sortKeys (keys : List Key) :
    (sortKeys keys).Pairwise fun a b => a.precedes b = true :=
  List.pairwise_mergeSort precedes_trans precedes_total keys

/-- Keys of a kind whose members do not precede each other keep their order. -/
lemma filter_sortKeys {test : Key → Bool}
    (htest : ∀ {a b}, test a = true → test b = true → a.precedes b = true) (keys : List Key) :
    (sortKeys keys).filter test = keys.filter test := by
  -- a sublist that is in order stays a sublist under the sort, and both filters have as many
  -- members
  have hordered : (keys.filter test).Pairwise fun a b => a.precedes b = true :=
    List.pairwise_filter.2 (List.pairwise_of_forall fun _ _ ha hb => htest ha hb)
  have hsub : (keys.filter test).Sublist (sortKeys keys) :=
    List.sublist_mergeSort precedes_trans precedes_total hordered List.filter_sublist
  have hfiltered : (keys.filter test).Sublist ((sortKeys keys).filter test) := by
    simpa using hsub.filter test
  exact (hfiltered.eq_of_length ((sortKeys_perm keys).filter test).length_eq.symm).symm

/-- Sorted keys are their indices, their texts and their symbols. -/
lemma eq_filter_append_of_pairwise {keys : List Key}
    (h : keys.Pairwise fun a b => a.precedes b = true) :
    keys = keys.filter isIndex ++ keys.filter isText ++ keys.filter isSymbol := by
  induction keys with
  | nil => rfl
  | cons k rest ih =>
    obtain ⟨hk, hrest⟩ := List.pairwise_cons.1 h
    -- a test that no key after the first can pass selects nothing of the rest
    have hno : ∀ {test : Key → Bool}, (∀ a, k.precedes a = true → test a = false) →
        rest.filter test = [] := by
      intro test htest
      exact List.filter_eq_nil_iff.2 fun a ha => by simp [htest a (hk a ha)]
    cases k with
    | index n =>
      simpa [List.filter_cons, isIndex, isText, isSymbol, index?, string?] using ih hrest
    | string s =>
      have hindex : rest.filter isIndex = [] := hno fun a ha => isIndex_of_precedes ha rfl
      have hsplit := ih hrest
      rw [hindex] at hsplit
      simpa [List.filter_cons, isIndex, isText, isSymbol, index?, string?, hindex] using hsplit
    | symbol s =>
      have hindex : rest.filter isIndex = [] := hno fun a ha => isIndex_of_precedes ha rfl
      have htext : rest.filter isText = [] := hno fun a ha => isText_of_precedes ha rfl
      have hsplit := ih hrest
      rw [hindex, htext] at hsplit
      simpa [List.filter_cons, isIndex, isText, isSymbol, index?, string?, hindex, htext]
        using hsplit

lemma filter_isIndex (keys : List Key) :
    keys.filter isIndex = (keys.filterMap index?).map .index := by
  induction keys with
  | nil => rfl
  | cons k rest ih =>
    cases k <;> simpa [List.filter_cons, List.filterMap_cons, isIndex, index?] using ih

lemma nodup_filterMap_index {keys : List Key} (h : keys.Nodup) :
    (keys.filterMap index?).Nodup := by
  refine h.filterMap ?_
  rintro a b n hna hnb
  cases a <;> cases b <;> simp_all [index?]

/-- The indices of sorted keys ascend strictly if no index comes twice. -/
lemma pairwise_indices_sortKeys {keys : List Key} (h : (keys.filterMap index?).Nodup) :
    ((sortKeys keys).filterMap index?).Pairwise (· < ·) := by
  have hnodup : ((sortKeys keys).filterMap index?).Nodup :=
    ((sortKeys_perm keys).filterMap index?).nodup_iff.2 h
  have hle : ((sortKeys keys).filterMap index?).Pairwise (· ≤ ·) := by
    refine List.pairwise_filterMap.2 ((pairwise_sortKeys keys).imp ?_)
    rintro a b hab m hm n hn
    cases a <;> cases b <;> simp_all [index?, precedes]
  exact (hle.and hnodup).imp fun h => UInt32.lt_of_le_of_ne h.1 h.2

/-- Keys whose indices do not come twice are sorted into their indices, strictly ascending,
and their texts and their symbols as they came. -/
theorem sortKeys_eq {keys : List Key} (h : (keys.filterMap index?).Nodup) :
    ∃ indices : List UInt32, indices.Pairwise (· < ·) ∧
      sortKeys keys =
        indices.map .index ++ keys.filter isText ++ keys.filter isSymbol := by
  refine ⟨(sortKeys keys).filterMap index?, pairwise_indices_sortKeys h, ?_⟩
  rw [← filter_isIndex, ← filter_sortKeys precedes_of_isText keys,
    ← filter_sortKeys precedes_of_isSymbol keys]
  exact eq_filter_append_of_pairwise (pairwise_sortKeys keys)

end Narrowing
