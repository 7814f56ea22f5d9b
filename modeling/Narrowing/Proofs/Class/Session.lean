import Mathlib.Logic.Relation
import Narrowing.Proofs.Value.Origin
/-!
# Hierarchies of classes

A hierarchy comes about as functions are made one after the other.  A function that is made
may name any function as its parent, and if that is a constructor it was made before.  Between
two functions other values may be made, which draw on the same supply of identities.

`Session` says which functions can have been made, and from what.  The identities that a
function and its prototype have are its own, since they come from the supply, so that a
function can be looked up by its identity.  `lineage` follows the parents upwards as long as
they are constructors, and the objects on the chain of a prototype turn out to be the
prototypes of the lineage, with the intrinsic object behind them.
-/

namespace Narrowing

variable {γ : Type}

/-! ### Functions and what they were made from -/

/-- A function that was made, with what its origin says of its prototype. -/
structure Definition (γ : Type) where
  function : Function γ
  /-- The parent that was named last. -/
  parent : Option (Function γ)
  /-- What was put on the prototype, in order. -/
  members : List (Key × Value γ)

namespace Definition

/-- The prototype of the function. -/
def prototype (d : Definition γ) : Option (Object γ) := d.function.prototype

lemma exists_prototype {d : Definition γ} (hconstructor : d.function.isConstructor = true) :
    ∃ proto, d.prototype = some proto :=
  Option.isSome_iff_exists.1 hconstructor

/-- The parent, if it is a constructor. -/
def superclass? (d : Definition γ) : Option (Function γ) := d.parent.filter Function.isConstructor

/-- The identities of the function and of its prototype. -/
def Owns (d : Definition γ) (identity : Nat) : Prop :=
  d.function.identity = identity ∨
    ∃ proto, d.prototype = some proto ∧ proto.identity = identity

lemma owns_function (d : Definition γ) : d.Owns d.function.identity := .inl rfl

lemma owns_prototype {d : Definition γ} {proto : Object γ}
    (hproto : d.prototype = some proto) : d.Owns proto.identity :=
  .inr ⟨proto, hproto, rfl⟩

/-- Without a parent that is a constructor, a prototype inherits from the intrinsic object. -/
lemma inheritedPrototype_eq_root {d : Definition γ} (hsuper : d.superclass? = none) :
    Function.inheritedPrototype d.parent = Intrinsic.root := by
  have hbind : d.parent.bind Function.prototype = none := by
    refine Option.bind_eq_none_iff.2 fun f hf => ?_
    have hnot := Option.filter_eq_none_iff.1 hsuper f hf
    exact Option.not_isSome_iff_eq_none.1 hnot
  rw [Function.inheritedPrototype, hbind]
  rfl

/-- With such a parent, it inherits from the parent's prototype. -/
lemma inheritedPrototype_eq {d : Definition γ} {f : Function γ} {proto : Object γ}
    (hsuper : d.superclass? = some f) (hproto : f.prototype = some proto) :
    Function.inheritedPrototype d.parent = proto := by
  rw [Function.inheritedPrototype, (Option.filter_eq_some_iff.1 hsuper).1]
  exact congrArg (·.getD Intrinsic.root) hproto

end Definition

namespace Function.Origin

/-- The definition of a function that is made from a supply. -/
def define (o : Origin γ) (supply : Supply) : Definition γ where
  function := (o.make.run supply).1
  parent := ClassStep.lastParent? o.history
  members := ((ClassStep.memberPuts o.history).run supply).1

variable {o : Origin γ} {supply : Supply}

lemma supply_le (o : Origin γ) (supply : Supply) :
    supply.identity ≤ (o.make.run supply).2.identity :=
  Nat.le_of_lt
    (Nat.lt_of_le_of_lt (o.made_make supply).le_identity (o.made_make supply).identity_lt)

/-- The identities of a new function and its prototype come from the supply. -/
lemma owns_define {identity : Nat} (howns : (o.define supply).Owns identity) :
    supply.identity ≤ identity ∧ identity < (o.make.run supply).2.identity := by
  have hmade := o.made_make supply
  rcases howns with rfl | ⟨proto, hproto, rfl⟩
  · exact ⟨hmade.le_identity, hmade.identity_lt⟩
  · exact ⟨(hmade.prototype proto hproto).1, (hmade.prototype proto hproto).2.1⟩

end Function.Origin

/-! ### Sessions -/

/-- A function that is no constructor, or that was made. -/
def Known (made : List (Definition γ)) (f : Function γ) : Prop :=
  f.isConstructor = true → ∃ d ∈ made, d.function = f

lemma Known.newest (d : Definition γ) (made : List (Definition γ)) :
    Known (d :: made) d.function := fun _ => ⟨d, List.mem_cons_self, rfl⟩

lemma Known.older {made : List (Definition γ)} {f : Function γ} (h : Known made f)
    (d : Definition γ) : Known (d :: made) f := by
  intro hf
  obtain ⟨e, he, hef⟩ := h hf
  exact ⟨e, List.mem_cons_of_mem _ he, hef⟩

/-- The functions that can have been made, newest first, beside the supply that is left. -/
inductive Session : List (Definition γ) → Supply → Prop
  /-- At first none was made. -/
  | start : Session [] {}
  /-- Other values were made. -/
  | draw {made : List (Definition γ)} {supply later : Supply} (h : Session made supply)
      (hle : supply.identity ≤ later.identity) : Session made later
  /-- A function was made. -/
  | make {made : List (Definition γ)} {supply : Supply} (h : Session made supply)
      (o : Function.Origin γ) (hparent : ∀ f ∈ (o.define supply).parent, Known made f) :
      Session (o.define supply :: made) (o.make.run supply).2

/-- The first function was made with the second, a constructor, as its parent. -/
def Extends (made : List (Definition γ)) (f g : Function γ) : Prop :=
  ∃ d ∈ made, d.function = f ∧ d.superclass? = some g

/-- From a constructor only constructors are reached. -/
lemma Extends.isConstructor_of_reflTransGen {made : List (Definition γ)} {f g : Function γ}
    (hreach : Relation.ReflTransGen (Extends made) f g) (hf : f.isConstructor = true) :
    g.isConstructor = true := by
  rcases hreach.cases_tail with rfl | ⟨_, -, d, -, -, hsuper⟩
  · exact hf
  · exact (Option.filter_eq_some_iff.1 hsuper).2

/-- The definitions of a function, of its parent, of the parent's parent and so on, up to the
first whose parent is no constructor.  A parent was made before. -/
def lineage : List (Definition γ) → Function γ → List (Definition γ)
  | [], _ => []
  | d :: older, f =>
    if d.function.same f then d :: d.superclass?.elim [] (lineage older) else lineage older f

namespace Session

variable {made : List (Definition γ)} {supply : Supply} {d e : Definition γ}

lemma limit_le (h : Session made supply) : Intrinsic.identityLimit ≤ supply.identity := by
  induction h with
  | start => exact Nat.le_refl _
  | draw _ hle ih => exact Nat.le_trans ih hle
  | make _ o _ ih => exact Nat.le_trans ih (o.supply_le _)

/-- Whatever was made has identities above the intrinsic ones and below those to come. -/
lemma owns_bounds (h : Session made supply) (hd : d ∈ made) {identity : Nat}
    (howns : d.Owns identity) :
    Intrinsic.identityLimit ≤ identity ∧ identity < supply.identity := by
  induction h with
  | start => exact absurd hd List.not_mem_nil
  | draw _ hle ih => exact ⟨(ih hd).1, Nat.lt_of_lt_of_le (ih hd).2 hle⟩
  | make h o _ ih =>
    rcases List.mem_cons.1 hd with rfl | hd
    · obtain ⟨hle, hlt⟩ := Function.Origin.owns_define howns
      exact ⟨Nat.le_trans h.limit_le hle, hlt⟩
    · exact ⟨(ih hd).1, Nat.lt_of_lt_of_le (ih hd).2 (o.supply_le _)⟩

/-- No identity belongs to two definitions. -/
lemma eq_of_owns (h : Session made supply) (hd : d ∈ made) (he : e ∈ made) {identity : Nat}
    (hdowns : d.Owns identity) (heowns : e.Owns identity) : d = e := by
  induction h with
  | start => exact absurd hd List.not_mem_nil
  | draw _ _ ih => exact ih hd he
  | @make made supply h o _ ih =>
    -- what the older definitions own is below the supply, and what the new one owns is not
    have hnew : ∀ d' ∈ made, d'.Owns identity → ¬ (o.define supply).Owns identity :=
      fun d' hd' hold hown =>
        absurd (h.owns_bounds hd' hold).2 (Nat.not_lt.2 (Function.Origin.owns_define hown).1)
    rcases List.mem_cons.1 hd with rfl | hd <;> rcases List.mem_cons.1 he with rfl | he
    · rfl
    · exact absurd hdowns (hnew e he heowns)
    · exact absurd heowns (hnew d hd hdowns)
    · exact ih hd he

lemma eq_of_same (h : Session made supply) (hd : d ∈ made) (he : e ∈ made)
    (hsame : d.function.same e.function = true) : d = e :=
  h.eq_of_owns hd he (.inl (eq_of_beq hsame)) e.owns_function

/-- A prototype holds what was put on it, and inherits from that of the parent. -/
lemma prototype_eq (h : Session made supply) (hd : d ∈ made) {proto : Object γ}
    (hproto : d.prototype = some proto) :
    proto = .mk proto.identity .ordinary (some (Function.inheritedPrototype d.parent))
      (Table.ofPuts d.members) := by
  induction h with
  | start => exact absurd hd List.not_mem_nil
  | draw _ _ ih => exact ih hd
  | make _ o _ ih =>
    rcases List.mem_cons.1 hd with rfl | hd
    · exact ((o.made_make _).prototype proto hproto).2.2
    · exact ih hd

/-- A parent that is a constructor was made, and before. -/
lemma exists_superclass (h : Session made supply) (hd : d ∈ made) {f : Function γ}
    (hf : d.superclass? = some f) :
    ∃ e ∈ made, e.function = f ∧ f.identity < d.function.identity := by
  induction h with
  | start => exact absurd hd List.not_mem_nil
  | draw _ _ ih => exact ih hd
  | make h o hparent ih =>
    rcases List.mem_cons.1 hd with rfl | hd
    · obtain ⟨hnamed, hconstructor⟩ := Option.filter_eq_some_iff.1 hf
      obtain ⟨e, he, rfl⟩ := hparent f hnamed hconstructor
      have hlt := (h.owns_bounds he e.owns_function).2
      exact ⟨e, List.mem_cons_of_mem _ he, rfl, Nat.lt_of_lt_of_le hlt (o.made_make _).le_identity⟩
    · obtain ⟨e, he, hrest⟩ := ih hd
      exact ⟨e, List.mem_cons_of_mem _ he, hrest⟩

/-- What holds of a definition whenever it holds of the parent's holds of every definition. -/
lemma parentInduction (h : Session made supply) {P : Definition γ → Prop}
    (hstep : ∀ d ∈ made, (∀ e ∈ made, d.superclass? = some e.function → P e) → P d) :
    ∀ d ∈ made, P d := by
  intro d hd
  -- the parent has the smaller identity
  induction hn : d.function.identity using Nat.strongRecOn generalizing d with
  | _ n ih =>
    refine hstep d hd fun e he hsuper => ?_
    obtain ⟨-, -, -, hlt⟩ := h.exists_superclass hd hsuper
    exact ih _ (hn ▸ hlt) e he rfl

/-! ### Lineages -/

/-- A function that is made does not change the lineage of those that were there. -/
lemma lineage_make (h : Session made supply) (o : Function.Origin γ) (hd : d ∈ made) :
    lineage (o.define supply :: made) d.function = lineage made d.function := by
  refine if_neg fun hsame => ?_
  have hnew := (Function.Origin.owns_define (o.define supply).owns_function).1
  rw [eq_of_beq hsame] at hnew
  exact absurd (h.owns_bounds hd d.owns_function).2 (Nat.not_lt.2 hnew)

/-- The lineage of a function is its definition followed by the lineage of its parent. -/
lemma lineage_eq (h : Session made supply) (hd : d ∈ made) :
    lineage made d.function = d :: d.superclass?.elim [] (lineage made) := by
  induction h with
  | start => exact absurd hd List.not_mem_nil
  | draw _ _ ih => exact ih hd
  | @make made supply h o hparent ih =>
    have hsuper : d.superclass?.elim [] (lineage (o.define supply :: made)) =
        d.superclass?.elim [] (lineage made) := by
      cases hf : d.superclass? with
      | none => rfl
      | some f =>
        obtain ⟨e, he, rfl⟩ : ∃ e ∈ made, e.function = f := by
          rcases List.mem_cons.1 hd with rfl | hd
          · obtain ⟨hnamed, hconstructor⟩ := Option.filter_eq_some_iff.1 hf
            exact hparent f hnamed hconstructor
          · obtain ⟨e, he, hef, -⟩ := h.exists_superclass hd hf
            exact ⟨e, he, hef⟩
        exact h.lineage_make o he
    rw [hsuper]
    rcases List.mem_cons.1 hd with rfl | hd
    · exact if_pos (beq_self_eq_true _)
    · rw [h.lineage_make o hd, ih hd]

lemma mem_of_mem_lineage {f : Function γ} (he : e ∈ lineage made f) : e ∈ made := by
  induction made generalizing f with
  | nil => exact he
  | cons d older ih =>
    rw [lineage] at he
    split at he
    · rcases List.mem_cons.1 he with rfl | he
      · exact List.mem_cons_self
      · cases hf : d.superclass? with
        | none => simp [hf] at he
        | some g => exact List.mem_cons_of_mem _ (ih (hf ▸ he))
    · exact List.mem_cons_of_mem _ (ih he)

/-- The lineage of a function has the definitions that are reached from it. -/
lemma mem_lineage_iff (h : Session made supply) (he : e ∈ made) :
    ∀ d ∈ made, (e ∈ lineage made d.function ↔
      Relation.ReflTransGen (Extends made) d.function e.function) := by
  refine h.parentInduction fun d hd ih => ?_
  rw [h.lineage_eq hd, List.mem_cons, Relation.ReflTransGen.cases_head_iff]
  refine or_congr ⟨fun heq => heq ▸ rfl, fun heq => ?_⟩ ⟨fun hmem => ?_, ?_⟩
  · exact h.eq_of_same he hd (by rw [heq]; exact beq_self_eq_true _)
  · cases hf : d.superclass? with
    | none => simp [hf] at hmem
    | some f =>
      obtain ⟨parent, hparent, rfl, -⟩ := h.exists_superclass hd hf
      rw [hf] at hmem
      exact ⟨_, ⟨d, hd, rfl, hf⟩, (ih parent hparent hf).1 hmem⟩
  · rintro ⟨f, ⟨d', hd', hsame, hf⟩, hreach⟩
    obtain rfl : d' = d := h.eq_of_same hd' hd (by rw [hsame]; exact beq_self_eq_true _)
    obtain ⟨parent, hparent, rfl, -⟩ := h.exists_superclass hd hf
    rw [hf]
    exact (ih parent hparent hf).2 hreach

/-- The lineage of a constructor has constructors only. -/
lemma isConstructor_of_mem_lineage (h : Session made supply) (hd : d ∈ made)
    (hconstructor : d.function.isConstructor = true) (he : e ∈ lineage made d.function) :
    e.function.isConstructor = true :=
  Extends.isConstructor_of_reflTransGen ((h.mem_lineage_iff (mem_of_mem_lineage he) d hd).1 he)
    hconstructor

/-- A prototype and its ancestors are the prototypes of the lineage and the intrinsic
object. -/
lemma prototype_chain (h : Session made supply) :
    ∀ d ∈ made, ∀ proto, d.prototype = some proto →
      proto :: proto.ancestors =
        (lineage made d.function).filterMap Definition.prototype ++ [Intrinsic.root] := by
  refine h.parentInduction fun d hd ih proto hproto => ?_
  have hancestors : proto.ancestors =
      Function.inheritedPrototype d.parent ::
        (Function.inheritedPrototype d.parent).ancestors := by
    rw [h.prototype_eq hd hproto]
    rfl
  rw [h.lineage_eq hd, List.filterMap_cons_some hproto, List.cons_append, hancestors]
  congr 1
  cases hsuper : d.superclass? with
  | none =>
    rw [Definition.inheritedPrototype_eq_root hsuper]
    rfl
  | some f =>
    obtain ⟨parent, hparent, rfl, -⟩ := h.exists_superclass hd hsuper
    obtain ⟨inherited, hinherited⟩ := Option.isSome_iff_exists.1
      (Option.filter_eq_some_iff.1 hsuper).2
    rw [Definition.inheritedPrototype_eq hsuper hinherited]
    exact ih parent hparent hsuper inherited hinherited

end Session

end Narrowing
