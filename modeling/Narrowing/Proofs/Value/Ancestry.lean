import Narrowing.Proofs.Class.InstanceOf
import Narrowing.Proofs.Guard.Presence
import Narrowing.Proofs.Value.Population
/-!
# The chains of objects

A lookup and the test of inheritance go from parent to parent until there is none.  Nothing in
either loop says that it ends or how far it goes.  What says it is the order in which objects are
made: a parent is there before the object that inherits from it, so that identities decrease on
the way, no object is met twice, and no object inherits from itself.

A chain can only end where an object has no parent.  That is the intrinsic object for objects, or
an object that was built to inherit from nothing.  So a value without such an object on its chain
has the methods that all objects have.
-/

namespace Narrowing

variable {γ : Type}

/-! ### Ancestors -/

namespace Object

/-- Each ancestor is the parent of the one before it. -/
lemma isChain_ancestors (o : Object γ) :
    (o :: o.ancestors).IsChain fun a b => a.parent = some b := by
  induction o using Object.ancestors.induct with
  | case1 => exact .singleton _
  | case2 identity content parent properties ih => exact .cons_cons rfl ih

/-- The last ancestor has no parent. -/
lemma parent_of_getLast? (o : Object γ) {last : Object γ}
    (h : (o :: o.ancestors).getLast? = some last) : last.parent = none := by
  induction o using Object.ancestors.induct with
  | case1 identity content properties =>
    obtain rfl := Option.some.inj h
    rfl
  | case2 identity content parent properties ih =>
    rw [ancestors, List.getLast?_cons_cons] at h
    exact ih h

variable {made : List (Creation γ)} {supply : Supply} {o a b : Object γ}

/-- The ancestors of an object are there and were there before. -/
lemma exists_of_mem_ancestors (h : Population made supply) (ho : o.Exists made)
    (ha : a ∈ o.ancestors) : a.Exists made ∧ a.identity < o.identity := by
  induction o using Object.ancestors.induct with
  | case1 => exact absurd ha List.not_mem_nil
  | case2 identity content parent properties ih =>
    obtain ⟨hparent, hlt⟩ := ho.parent h rfl
    rcases List.mem_cons.1 ha with rfl | ha
    · exact ⟨hparent, hlt⟩
    · exact ⟨(ih hparent ha).1, Nat.lt_trans (ih hparent ha).2 hlt⟩

/-- Along the ancestors the identities decrease. -/
lemma pairwise_ancestors (h : Population made supply) (ho : o.Exists made) :
    (o :: o.ancestors).Pairwise fun a b => b.identity < a.identity := by
  induction o using Object.ancestors.induct with
  | case1 => exact List.pairwise_singleton _ _
  | case2 identity content parent properties ih =>
    refine List.Pairwise.cons (fun a ha => (exists_of_mem_ancestors h ho ha).2) ?_
    exact ih (ho.parent h rfl).1

/-- Inheriting from an object is having it among the ancestors. -/
lemma inheritsFrom_iff_mem (h : Population made supply) (ho : o.Exists made)
    (ha : a.Exists made) : o.inheritsFrom a = true ↔ a ∈ o.ancestors := by
  rw [inheritsFrom_iff]
  constructor
  · rintro ⟨b, hb, hsame⟩
    rwa [← (exists_of_mem_ancestors h ho hb).1.eq_of_identity h ha hsame]
  · exact fun hmem => ⟨a, hmem, rfl⟩

lemma mem_ancestors_trans (hb : b ∈ o.ancestors) (ha : a ∈ b.ancestors) : a ∈ o.ancestors := by
  rw [← Value.chain_object, Value.mem_chain_iff] at hb ⊢
  exact Value.inherits_of_mem_ancestors hb ha

end Object

/-! ### The chain of a value -/

namespace Value

/-- The chain of a value, with the value before it if that is an object. -/
def line (v : Value γ) : List (Object γ) := v.object?.toList ++ v.chain

lemma line_object (o : Object γ) : (object o).line = o :: o.ancestors := by
  rw [line, chain_object]
  rfl

/-- A value is there, unless it is an object that is not. -/
def Exists (made : List (Creation γ)) (v : Value γ) : Prop := ∀ o, v = object o → o.Exists made

lemma line_of_isNullish {v : Value γ} (h : v.isNullish = true) : v.line = [] := by
  cases v with
  | undefined => rfl
  | null => rfl
  | _ => exact nomatch h

/-- The chain of any other value begins with an object that is there. -/
lemma exists_line_eq {made : List (Creation γ)} {v : Value γ} (hv : v.Exists made)
    (h : v.isNullish = false) : ∃ o, o.Exists made ∧ v.line = o :: o.ancestors := by
  cases v with
  | undefined => exact nomatch h
  | null => exact nomatch h
  | object o => exact ⟨o, hv o rfl, line_object o⟩
  | _ => exact ⟨_, .inl ⟨_, rfl⟩, rfl⟩

lemma inherits_of_mem_line {v : Value γ} {o : Object γ} (h : o ∈ v.line) :
    v = object o ∨ v.Inherits o := by
  rcases List.mem_append.1 h with h | h
  · cases v with
    | object a => exact .inl (by rw [List.mem_singleton.1 h])
    | _ => exact absurd h List.not_mem_nil
  · exact .inr ((mem_chain_iff v o).1 h)

/-- What an object on the chain has is found. -/
lemma hasInChain_of_mem_line {v : Value γ} {o : Object γ} (h : o ∈ v.line) {k : Key}
    (hk : o.hasOwn k = true) : v.hasInChain k = true := by
  rw [hasInChain_iff]
  rcases inherits_of_mem_line h with rfl | h
  · exact .inl hk
  · exact .inr ⟨o, h, hk⟩

end Value

/-! ### Chains that are well formed -/

section

open Guard (check)

/-- The chain of a value is gone along from parent to parent, without meeting an object twice,
until an object has no parent. -/
structure Value.HasChain (made : List (Creation Guard)) (v : Value Guard) : Prop where
  begins : v.chain.head? = v.parent
  continues : v.line.IsChain fun a b => a.parent = some b
  once : v.line.Pairwise fun a b => a.same b = false
  /-- It ends at the intrinsic object for objects, or at one that was to have no parent. -/
  ends : ∀ last, v.line.getLast? = some last → last.parent = none ∧
    (last = Intrinsic.root ∨ ∃ c ∈ made, c.object = last ∧ c.IsBare)

variable {made : List (Creation Guard)} {supply : Supply}

lemma Value.hasChain (h : Population made supply) {v : Value Guard} (hv : v.Exists made) :
    v.HasChain made := by
  have hbegins : v.chain.head? = v.parent := by
    unfold chain
    split
    · next hparent => rw [hparent, List.head?_nil]
    · next hparent => rw [hparent, List.head?_cons]
  cases hnullish : v.isNullish with
  | true =>
    refine ⟨hbegins, ?_, ?_, fun last hlast => ?_⟩ <;> rw [line_of_isNullish hnullish] at *
    · exact .nil
    · exact .nil
    · exact nomatch hlast
  | false =>
    obtain ⟨o, ho, hline⟩ := exists_line_eq hv hnullish
    refine ⟨hbegins, ?_, ?_, fun last hlast => ?_⟩ <;> rw [hline] at *
    · exact o.isChain_ancestors
    · exact (Object.pairwise_ancestors h ho).imp fun hlt =>
        beq_eq_false_iff_ne.2 (Nat.ne_of_gt hlt)
    · have hnone := o.parent_of_getLast? hlast
      have hexists : last.Exists made := by
        rcases List.mem_cons.1 (List.mem_of_getLast? hlast) with rfl | hmem
        · exact ho
        · exact (Object.exists_of_mem_ancestors h ho hmem).1
      exact ⟨hnone, hexists.eq_root_or_isBare h hnone⟩

/-- A chain without an object that was to have no parent ends at the intrinsic object for
objects. -/
lemma Value.HasChain.root_mem_line {v : Value Guard} (h : v.HasChain made)
    (hnullish : v.isNullish = false) (hv : v.Exists made)
    (hbare : ∀ c ∈ made, c.IsBare → c.object ∉ v.line) : Intrinsic.root ∈ v.line := by
  obtain ⟨o, -, hline⟩ := exists_line_eq hv hnullish
  have hlast : v.line.getLast? = some (v.line.getLast (by simp [hline])) :=
    List.getLast?_eq_some_getLast _
  have hmem := List.mem_of_getLast? hlast
  rcases (h.ends _ hlast).2 with hroot | ⟨c, hc, hobject, hisBare⟩
  · rwa [hroot] at hmem
  · rw [← hobject] at hmem
    exact absurd hmem (hbare c hc hisBare)

/-- **Chains are well formed.**  Of objects that can have been made one after the other, each
inherits from its ancestors and from no others.  None inherits from itself, and what inherits
from an object inherits from whatever that inherits from.  The chain of each value ends, and it
meets no object twice.  It ends at the intrinsic object for objects, or at an object whose last
choice of a parent was to have none.  A value whose chain has no such object has every property
of the intrinsic object. -/
theorem chains_are_well_formed (h : Population made supply) :
    (∀ o a : Object Guard, o.Exists made → a.Exists made →
      (o.inheritsFrom a = true ↔ a ∈ o.ancestors)) ∧
    (∀ o : Object Guard, o.Exists made → o.inheritsFrom o = false) ∧
    (∀ a b c : Object Guard, a.Exists made → b.Exists made → c.Exists made →
      a.inheritsFrom b = true → b.inheritsFrom c = true → a.inheritsFrom c = true) ∧
    ∀ v : Value Guard, v.Exists made → v.HasChain made ∧
      (v.isNullish = false → (∀ c ∈ made, c.IsBare → c.object ∉ v.line) →
        ∀ p k, (Intrinsic.root : Object Guard).hasOwn k = true →
          (check p (.has k) v).result = true) := by
  refine ⟨fun o a ho ha => Object.inheritsFrom_iff_mem h ho ha, fun o ho => ?_,
    fun a b c ha hb hc hab hbc => ?_, fun v hv => ⟨?_, ?_⟩⟩
  · refine Bool.eq_false_iff.2 fun hinherits => ?_
    rw [Object.inheritsFrom_iff_mem h ho ho] at hinherits
    exact absurd (Object.exists_of_mem_ancestors h ho hinherits).2 (Nat.lt_irrefl _)
  · rw [Object.inheritsFrom_iff_mem h ha hb] at hab
    rw [Object.inheritsFrom_iff_mem h hb hc] at hbc
    rw [Object.inheritsFrom_iff_mem h ha hc]
    exact Object.mem_ancestors_trans hab hbc
  · exact Value.hasChain h hv
  · intro hnullish hbare p k hk
    have hroot := (Value.hasChain h hv).root_mem_line hnullish hv hbare
    rw [Guard.result_check_has, Value.hasProperty_eq]
    exact Value.hasInChain_of_mem_line hroot hk

/-- An instance of a class inherits from the intrinsic object for objects and has its methods,
also where an object without a parent was made before it, and it does not inherit from itself. -/
theorem chains_are_well_formed_of_instance :
    let animal : Function.Origin Guard := .ofClass "Animal" [.method "speak"]
    let animalClass := (animal.make.run {}).1
    let afterClass := (animal.make.run {}).2
    let bare := (Creation.ofContent (γ := Guard) .ordinary [.noParent]).run afterClass
    let rex := ((Creation.ofFunction animalClass []).run bare.2).1.object
    bare.1.IsBare ∧ rex.inheritsFrom Intrinsic.root = true ∧ rex.inheritsFrom rex = false ∧
      (check (fun _ _ => pure false) (.has (.string "toString")) (.object rex)).result = true := by
  intro animal animalClass afterClass bare rex
  have hclass := Population.start.step (Creation.Step.function animal fun f proto hmem => by
    simp [animal, Function.Origin.history] at hmem)
  have hbare := hclass.step (.ofContent .ordinary [.noParent] fun o hmem => by simp at hmem)
  have hrex := hbare.step (.ofFunction animalClass []
    (fun proto hproto => .inr ⟨_, List.mem_cons_of_mem _ List.mem_cons_self, by
      exact Option.some.inj hproto⟩)
    fun o hmem => absurd hmem List.not_mem_nil)
  obtain ⟨hancestors, hirreflexive, -, hchains⟩ := chains_are_well_formed hrex
  have hroot : Intrinsic.root ∈ rex.ancestors := List.mem_cons_of_mem _ List.mem_cons_self
  refine ⟨rfl, (hancestors rex _ (.newest _ _) (.inl ⟨.object, rfl⟩)).2 hroot,
    hirreflexive rex (.newest _ _), ?_⟩
  refine (hchains (.object rex) fun o ho => ?_).2 rfl (fun c hc hisBare hmem => ?_) _ _ (by decide)
  · rw [← Value.object.inj ho]
    exact .newest _ _
  · -- the object without a parent is the only one, and it is not on the chain
    have hidentity := List.mem_map_of_mem (f := Object.identity) hmem
    rcases List.mem_cons.1 hc with rfl | hc
    · exact nomatch hisBare
    rcases List.mem_cons.1 hc with rfl | hc
    · revert hidentity
      decide
    · rw [List.mem_singleton.1 hc] at hisBare
      exact nomatch hisBare
end

end Narrowing
