import Mathlib.Algebra.Group.Nat.Defs
import Narrowing.Proofs.Symbol.Run
import Narrowing.Proofs.Value.Written
/-!
# Symbols are unique

Symbols are compared by their identities, and descriptions play no part.  As long as no more
identities are drawn than there are words from 16 on, no two drawings give the same one and none
gives the identity of a symbol that every program knows.  So the symbols that a run hands out are
the same exactly if they come from the same place, copies being the same as what was copied.

A table compares its keys as a whole.  Symbols from the same place have the same description too,
so for the symbols of a run this is to compare identities, and what was put under a symbol is read
under that symbol and under no other.
-/

namespace Narrowing.Symbol

/-! ### Identities -/

namespace Origin

/-- The identity as a natural number, counted on without an end. -/
def value : Origin → Nat
  | drawing n => 16 + n
  | iterator => 1
  | asyncIterator => 2

lemma value_injective : Function.Injective value := by
  intro o p h
  cases o <;> cases p <;> simp only [value] at h <;> grind

lemma toNat_identity {o : Origin} (h : ∀ n, o = drawing n → n < 2 ^ 64 - 16) :
    o.identity.toNat = o.value := by
  cases o with
  | drawing n =>
    have hn : n < 2 ^ 64 - 16 := h n rfl
    have hsize : UInt64.size = 2 ^ 64 := rfl
    have hsixteen : (16 : UInt64).toNat = 16 := rfl
    have hword : (UInt64.ofNat n).toNat = n := UInt64.toNat_ofNat_of_lt' (by omega)
    rw [identity, UInt64.toNat_add, hword, hsixteen, value]
    exact Nat.mod_eq_of_lt (by omega)
  | iterator => rfl
  | asyncIterator => rfl

/-- The drawing after the last one that the limit allows gives zero, and the one after that gives
the identity of iteration. -/
example : (drawing (2 ^ 64 - 16)).identity = 0 ∧
    (drawing (2 ^ 64 - 15)).identity = iterator.identity := by decide

end Origin

lemma same_iff_identity_eq (s t : Symbol) : s.same t = true ↔ s.identity = t.identity := beq_iff_eq

variable {s : State} {x y : Held}

/-- Up to the limit the identity tells the origin. -/
lemma Held.Fits.origin_eq {m : Nat} (hx : x.Fits m) (hy : y.Fits m) (hlimit : m ≤ 2 ^ 64 - 16)
    (h : x.symbol.identity = y.symbol.identity) : x.origin = y.origin := by
  rw [hx.identity_eq, hy.identity_eq] at h
  refine Origin.value_injective ?_
  rw [← Origin.toNat_identity fun n hn => Nat.lt_of_lt_of_le (hx.number_lt hn) hlimit, h,
    Origin.toNat_identity fun n hn => Nat.lt_of_lt_of_le (hy.number_lt hn) hlimit]

namespace State.Sound

section Identity

variable (h : s.Sound) (hlimit : s.drawings ≤ 2 ^ 64 - 16)
include h hlimit

theorem identity_eq_iff (hx : x ∈ s.held) (hy : y ∈ s.held) :
    x.symbol.identity = y.symbol.identity ↔ x.origin = y.origin := by
  refine ⟨(h.fits x hx).origin_eq (h.fits y hy) hlimit, fun horigin => ?_⟩
  rw [h.eq_of_origin x hx y hy horigin]

/-- What holds of identities holds of whole symbols. -/
theorem symbol_eq_iff (hx : x ∈ s.held) (hy : y ∈ s.held) :
    x.symbol = y.symbol ↔ x.origin = y.origin := by
  constructor
  · intro heq
    exact (h.identity_eq_iff hlimit hx hy).1 (congrArg identity heq)
  · intro horigin
    rw [h.eq_of_origin x hx y hy horigin]

/-- A symbol that was made in the run is none that every program knows. -/
theorem not_same_wellKnown (hx : x ∈ s.held) {n : Nat} (hn : x.origin = .drawing n)
    (hy : y ∈ wellKnown) : x.symbol.same y.symbol = false := by
  refine Bool.eq_false_iff.2 fun hsame => origin_ne_of_wellKnown hy n ?_
  rw [← hn]
  exact ((h.fits x hx).origin_eq (.wellKnown hy) hlimit
    ((same_iff_identity_eq _ _).1 hsame)).symm

end Identity

end State.Sound

/-! ### Properties -/

/-- The last put under a symbol from the origin gave the value. -/
def State.PutLast {α : Type} (s : State) (o : Origin) (value : α) (puts : List (Key × α)) : Prop :=
  ∃ before x after, puts = before ++ (.symbol x.symbol, value) :: after ∧ x ∈ s.held ∧
    x.origin = o ∧ ∀ p ∈ after, ∀ y ∈ s.held, p.1 = .symbol y.symbol → y.origin ≠ o

namespace State.Sound

variable {α γ : Type} {s : State} {x : Held} (h : s.Sound) (hlimit : s.drawings ≤ 2 ^ 64 - 16)
include h hlimit

/-- A table reads under a symbol what was put last under symbols from the same place. -/
theorem lastPut?_eq_some_iff_putLast (hx : x ∈ s.held) (puts : List (Key × α)) (value : α) :
    lastPut? (.symbol x.symbol) puts = some value ↔ s.PutLast x.origin value puts := by
  rw [lastPut?_eq_some_iff]
  constructor
  · rintro ⟨before, after, rfl, hafter⟩
    refine ⟨before, x, after, rfl, hx, rfl, fun p hp y hy hkey horigin => hafter p hp ?_⟩
    rw [hkey, (h.symbol_eq_iff hlimit hy hx).2 horigin]
  · rintro ⟨before, y, after, rfl, hy, horigin, hafter⟩
    refine ⟨before, after, ?_, fun p hp hkey => hafter p hp x hx hkey rfl⟩
    rw [(h.symbol_eq_iff hlimit hy hx).2 horigin]

end State.Sound

/-- A symbol is a key of no computed property of an object. -/
lemma not_computes_symbol {γ : Type} (c : Content γ) (t : Symbol) : ¬ c.Computes (.symbol t) := by
  cases c <;> simp [Content.Computes, Content.leadingKeys, Key.length]

lemma getOwn?_build_symbol {γ : Type} (content : Content γ) (parent : ParentChoice γ)
    (history : List (ObjectStep γ)) (supply : Supply) (t : Symbol) :
    ((ObjectBuilder.steps { content, parent } history).build.run supply).1.getOwn? (.symbol t) =
      lastPut? (.symbol t) (history.filterMap ObjectStep.put?) := by
  rw [Object.getOwn?_of_not_computes (not_computes_symbol _ t)]
  exact find?_properties_build content parent history supply (.symbol t)

lemma getOwn?_ofClass_symbol {γ : Type} (name : String) (history : List (ClassStep γ))
    (supply : Supply) (t : Symbol) :
    ((Function.ofClass name history).run supply).1.getOwn? (.symbol t) =
      lastPut? (.symbol t) (history.filterMap ClassStep.staticPut?) := by
  have hnot (f : Function γ) : .symbol t ∉ f.computedKeys := by
    simp [Function.mem_computedKeys_iff, Key.length]
  rw [Function.getOwn?_of_not_mem_computedKeys (hnot _)]
  exact find?_statics_ofClass name history supply (.symbol t)

/-- What tells the symbols of a run apart is where they come from, for comparison and hashing, as
keys, and when a property is read that was put on an object or on a class. -/
structure State.Distinguishes (s : State) : Prop where
  same_iff : ∀ x ∈ s.held, ∀ y ∈ s.held, x.symbol.same y.symbol = true ↔ x.origin = y.origin
  hashed_eq_iff : ∀ x ∈ s.held, ∀ y ∈ s.held,
    x.symbol.hashed = y.symbol.hashed ↔ x.origin = y.origin
  key_eq_iff : ∀ x ∈ s.held, ∀ y ∈ s.held,
    Key.symbol x.symbol = .symbol y.symbol ↔ x.origin = y.origin
  ne_wellKnown : ∀ x ∈ s.held, ∀ n, x.origin = .drawing n →
    x.symbol.same .iterator = false ∧ x.symbol.same .asyncIterator = false
  object_reads_iff : ∀ x ∈ s.held, ∀ (γ : Type) (content : Content γ) (parent : ParentChoice γ)
    (history : List (ObjectStep γ)) (supply : Supply) (value : Value γ),
    let o := ((ObjectBuilder.steps { content, parent } history).build.run supply).1
    o.getOwn? (.symbol x.symbol) = some value ↔
      s.PutLast x.origin value (history.filterMap ObjectStep.put?)
  class_reads_iff : ∀ x ∈ s.held, ∀ (γ : Type) (name : String) (history : List (ClassStep γ))
    (supply : Supply) (value : Value γ),
    let f := ((Function.ofClass name history).run supply).1
    f.getOwn? (.symbol x.symbol) = some value ↔
      s.PutLast x.origin value (history.filterMap ClassStep.staticPut?)

/-- **Symbols are unique.**  However the steps of any number of threads fall, if no more than
`2 ^ 64 - 16` symbols are begun, two symbols are the same exactly if one made them or both copy
it, or if both are the same symbol that every program knows, and no symbol that was made is one of
those.  Descriptions play no part, and a property is read under the symbol that it was put under
and under no other. -/
theorem symbols_are_unique {steps : List (Nat × Action)} {s : State}
    (hrun : State.run steps = some s) (hlimit : steps.countP draws ≤ 2 ^ 64 - 16) :
    s.Distinguishes := by
  obtain ⟨hs, hdrawings⟩ := State.sound_of_run hrun
  rw [← hdrawings] at hlimit
  refine ⟨?_, ?_, ?_, ?_, ?_, ?_⟩
  · intro x hx y hy
    rw [same_iff_identity_eq, hs.identity_eq_iff hlimit hx hy]
  · intro x hx y hy
    exact hs.identity_eq_iff hlimit hx hy
  · intro x hx y hy
    rw [Key.symbol.injEq, hs.symbol_eq_iff hlimit hx hy]
  · intro x hx n hn
    exact ⟨hs.not_same_wellKnown hlimit hx hn List.mem_cons_self,
      hs.not_same_wellKnown hlimit hx hn (List.mem_cons_of_mem _ List.mem_cons_self)⟩
  · intro x hx γ content parent history supply value o
    have hread : o.getOwn? (.symbol x.symbol) = _ :=
      getOwn?_build_symbol content parent history supply x.symbol
    rw [hread, hs.lastPut?_eq_some_iff_putLast hlimit hx]
  · intro x hx γ name history supply value f
    have hread : f.getOwn? (.symbol x.symbol) = _ :=
      getOwn?_ofClass_symbol name history supply x.symbol
    rw [hread, hs.lastPut?_eq_some_iff_putLast hlimit hx]

/-- Two threads make a symbol of the same description.  The second one to begin is the first to
finish, and a third thread copies what it made. -/
theorem symbols_are_unique_of_two_threads :
    let steps : List (Nat × Action) :=
      [(0, .draw), (1, .draw), (1, .finish (some "tag")), (0, .finish (some "tag")),
        (2, .clone 0), (2, .iterator)]
    ∃ s, State.run steps = some s ∧ steps.countP draws ≤ 2 ^ 64 - 16 ∧
      s.held.map Held.origin = [.drawing 1, .drawing 0, .drawing 1, .iterator] ∧
      s.held.map (fun x => x.symbol.description) =
        [some "tag", some "tag", some "tag", some "Symbol.iterator"] ∧ s.Distinguishes := by
  intro steps
  refine ⟨_, rfl, by decide, rfl, rfl, ?_⟩
  exact symbols_are_unique (show State.run steps = some _ from rfl) (by decide)

end Symbol

end Narrowing
