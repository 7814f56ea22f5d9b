import Narrowing.Proofs.Class.Instance
/-!
# Objects that were made

Every object is built by steps from some content, also where nobody wrote the steps down: an
instance is begun with the prototype of its constructor for a parent, and the prototype of a
class is built from the members that the class was given.  Whatever a step names as a parent
was there before, since it is intrinsic or was made earlier.

`Population` says which objects can have been made, one after the other, from a supply of
identities.  Between two objects other values may be made, which draw on the same supply.  The
invariants come from one fact about a single step, `Creation.Fresh`: a new object has an identity
of its own, its parent was there, and it has none only if its last choice of a parent was to
have none.
-/

namespace Narrowing

variable {γ : Type}

/-! ### The parent that steps choose -/

namespace ObjectStep

/-- The choice of a parent that a step makes, if it makes one. -/
def choice? : ObjectStep γ → Option (ParentChoice γ)
  | property _ _ => none
  | parent o => some (.object o)
  | noParent => some .nothing

/-- The choice that a history makes last. -/
def lastChoice? (history : List (ObjectStep γ)) : Option (ParentChoice γ) :=
  (history.filterMap choice?).getLast?

lemma lastChoice?_append_singleton (history : List (ObjectStep γ)) (s : ObjectStep γ) :
    lastChoice? (history ++ [s]) = s.choice?.or (lastChoice? history) :=
  getLast?_filterMap_append_singleton choice? history s

/-- The parent that is chosen last was named by a step. -/
lemma parent_mem_of_lastChoice? {history : List (ObjectStep γ)} {o : Object γ}
    (h : lastChoice? history = some (.object o)) : parent o ∈ history := by
  obtain ⟨s, hs, hchoice⟩ := List.mem_filterMap.1 (List.mem_of_getLast? h)
  cases s with
  | property _ _ => exact nomatch hchoice
  | parent a =>
    obtain rfl := ParentChoice.object.inj (Option.some.inj hchoice)
    exact hs
  | noParent => exact nomatch hchoice

end ObjectStep

namespace ObjectBuilder

open ObjectStep (lastChoice?)

lemma parent_steps (b : ObjectBuilder γ) (history : List (ObjectStep γ)) :
    (b.steps history).parent = (lastChoice? history).getD b.parent := by
  induction history using List.reverseRecOn with
  | nil => rfl
  | append_singleton history s ih =>
    rw [steps_append_singleton, ObjectStep.lastChoice?_append_singleton]
    cases s with
    | property _ _ => exact ih
    | parent _ => rfl
    | noParent => rfl

/-- The last choice is the parent, and without a choice it is the intrinsic object of the
content. -/
lemma finalParent_steps (content : Content γ) (history : List (ObjectStep γ)) :
    (steps { content } history).finalParent =
      match lastChoice? history with
      | some (.object o) => some o
      | some .nothing => none
      | _ => some content.intrinsic.toObject := by
  rw [finalParent, parent_steps, content_steps]
  rcases lastChoice? history with _ | (_ | _ | _) <;> rfl

end ObjectBuilder

/-- An instance is begun by choosing the prototype as the parent. -/
lemma Function.newInstance_eq_steps (f : Function γ) :
    f.newInstance = Object.builder.steps (f.prototype.toList.map .parent) := by
  unfold newInstance
  cases f.prototype <;> rfl

lemma ObjectBuilder.steps_append (b : ObjectBuilder γ) (first second : List (ObjectStep γ)) :
    b.steps (first ++ second) = (b.steps first).steps second :=
  List.foldl_append

/-! ### One more object -/

/-- An object that was made, with the steps that built it from its content. -/
structure Creation (γ : Type) where
  object : Object γ
  history : List (ObjectStep γ)

namespace Creation

/-- The last choice of a parent was to have none. -/
def IsBare (c : Creation γ) : Prop := ObjectStep.lastChoice? c.history = some .nothing

/-- Builds an object from content. -/
def ofContent (content : Content γ) (history : List (ObjectStep γ)) : Build (Creation γ) := do
  return ⟨← (ObjectBuilder.steps { content } history).build, history⟩

/-- Builds an instance of a function, where the first step is to choose the prototype. -/
def ofFunction (f : Function γ) (history : List (ObjectStep γ)) : Build (Creation γ) := do
  return ⟨← (f.newInstance.steps history).build, f.prototype.toList.map .parent ++ history⟩

end Creation

/-- An object is there: it is intrinsic, or it was made. -/
def Object.Exists (made : List (Creation γ)) (o : Object γ) : Prop :=
  (∃ i : Intrinsic, o = i.toObject) ∨ ∃ c ∈ made, c.object = o

lemma Object.Exists.later {made : List (Creation γ)} {o : Object γ} (h : o.Exists made)
    (new : List (Creation γ)) : o.Exists (new ++ made) := by
  rcases h with h | ⟨c, hc, ho⟩
  · exact .inl h
  · exact .inr ⟨c, List.mem_append_right _ hc, ho⟩

/-- What was made last is there. -/
lemma Object.Exists.newest (c : Creation γ) (made : List (Creation γ)) :
    c.object.Exists ((some c).toList ++ made) := .inr ⟨c, List.mem_cons_self, rfl⟩

/-- The steps that build the prototype of a function: it inherits from the prototype of the
parent that was named last, and the members are put on it. -/
def Function.Origin.prototypeSteps (o : Function.Origin γ) (supply : Supply) :
    List (ObjectStep γ) :=
  ((ClassStep.lastParent? o.history).bind Function.prototype).toList.map .parent ++
    ((ClassStep.memberPuts o.history).run supply).1.map fun put => .property put.1 put.2

/-- Ways to make a value, by the object that is made on the way, if one is. -/
inductive Creation.Step (made : List (Creation γ)) (supply : Supply) :
    Option (Creation γ) → Supply → Prop
  /-- Something that is no object was made. -/
  | draw {later : Supply} : supply.identity ≤ later.identity → Step made supply none later
  /-- An object was built from content.  Each parent that a step names is there. -/
  | ofContent (content : Content γ) (history : List (ObjectStep γ)) :
    (∀ o, .parent o ∈ history → o.Exists made) →
    Step made supply (some ((ofContent content history).run supply).1)
      ((ofContent content history).run supply).2
  /-- An instance of a function was built.  The prototype of the function is there. -/
  | ofFunction (f : Function γ) (history : List (ObjectStep γ)) :
    (∀ proto, f.prototype = some proto → proto.Exists made) →
    (∀ o, .parent o ∈ history → o.Exists made) →
    Step made supply (some ((ofFunction f history).run supply).1)
      ((ofFunction f history).run supply).2
  /-- A function was made, with its prototype.  The prototypes of the parents that it names are
  there. -/
  | function (o : Function.Origin γ) :
    (∀ f proto, .extends f ∈ o.history → f.prototype = some proto → proto.Exists made) →
    Step made supply
      ((o.make.run supply).1.prototype.map fun proto => ⟨proto, o.prototypeSteps supply⟩)
      (o.make.run supply).2

/-- What is known of a new object, which was made from one supply and left another one. -/
structure Creation.Fresh (made : List (Creation γ)) (supply later : Supply) (c : Creation γ) :
    Prop where
  le_identity : supply.identity ≤ c.object.identity
  identity_lt : c.object.identity < later.identity
  parent_exists : ∀ p, c.object.parent = some p → p.Exists made
  isBare : c.object.parent = none → c.IsBare

namespace Creation

variable {made : List (Creation γ)} {supply later : Supply}

/-- What steps build is new if its identity is. -/
lemma fresh_of_steps {c : Creation γ} (content : Content γ)
    (hknown : ∀ o, .parent o ∈ c.history → o.Exists made)
    (hparent : c.object.parent = (ObjectBuilder.steps { content } c.history).finalParent)
    (hle : supply.identity ≤ c.object.identity) (hlt : c.object.identity < later.identity) :
    Fresh made supply later c := by
  rw [ObjectBuilder.finalParent_steps] at hparent
  refine ⟨hle, hlt, fun p hp => ?_, fun hnone => ?_⟩
  · rw [hparent] at hp
    split at hp
    · next o hchoice =>
      obtain rfl := Option.some.inj hp
      exact hknown _ (ObjectStep.parent_mem_of_lastChoice? hchoice)
    · exact nomatch hp
    · exact .inl ⟨_, (Option.some.inj hp).symm⟩
  · rw [hparent] at hnone
    split at hnone
    · exact nomatch hnone
    · next hchoice => exact hchoice
    · exact nomatch hnone

/-- The parents that are named by choosing a prototype are that prototype. -/
lemma exists_of_mem_map_parent {proto? : Option (Object γ)} {o : Object γ}
    (hproto : ∀ proto, proto? = some proto → proto.Exists made)
    (ho : ObjectStep.parent o ∈ proto?.toList.map .parent) : o.Exists made := by
  obtain ⟨proto, hmem, heq⟩ := List.mem_map.1 ho
  rw [← ObjectStep.parent.inj heq]
  exact hproto proto (Option.mem_toList.1 hmem)

/-- The prototype of a function is built by its steps. -/
lemma finalParent_prototypeSteps (o : Function.Origin γ) (supply : Supply) :
    (Object.builder.steps (o.prototypeSteps supply)).finalParent =
      some (Function.inheritedPrototype (ClassStep.lastParent? o.history)) := by
  rw [Function.Origin.prototypeSteps, ObjectBuilder.steps_append,
    ObjectBuilder.finalParent_steps_property, Function.inheritedPrototype]
  cases (ClassStep.lastParent? o.history).bind Function.prototype <;> rfl

lemma exists_of_mem_prototypeSteps {o : Function.Origin γ} {a : Object γ}
    (hparent : ∀ f proto, .extends f ∈ o.history → f.prototype = some proto →
      proto.Exists made) (ha : .parent a ∈ o.prototypeSteps supply) : a.Exists made := by
  rcases List.mem_append.1 ha with ha | ha
  · refine exists_of_mem_map_parent (fun proto hproto => ?_) ha
    obtain ⟨f, hf, hproto⟩ := Option.bind_eq_some_iff.1 hproto
    obtain ⟨s, hs, hnamed⟩ := List.mem_filterMap.1 (List.mem_of_getLast? hf)
    cases s with
    | «extends» g =>
      obtain rfl := Option.some.inj hnamed
      exact hparent g proto hs hproto
    | _ => exact nomatch hnamed
  · obtain ⟨_, -, hput⟩ := List.mem_map.1 ha
    exact nomatch hput

namespace Step

variable {new : Option (Creation γ)}

lemma identity_le (h : Step made supply new later) : supply.identity ≤ later.identity := by
  cases h with
  | draw hle => exact hle
  | ofContent content history _ => exact Nat.le_succ _
  | ofFunction f history _ _ => exact Nat.le_succ _
  | function o _ => exact o.supply_le supply

/-- However an object is made, it is new. -/
lemma fresh (h : Step made supply new later) : ∀ c ∈ new, Fresh made supply later c := by
  intro c hc
  cases h with
  | draw _ => exact nomatch hc
  | ofContent content history hknown =>
    obtain rfl := Option.some.inj hc
    exact fresh_of_steps content hknown rfl (Nat.le_refl _) (Nat.lt_succ_self _)
  | ofFunction f history hproto hknown =>
    obtain rfl := Option.some.inj hc
    refine fresh_of_steps .ordinary (fun o ho => ?_) ?_ (Nat.le_refl _)
      (Nat.lt_succ_self _)
    · rcases List.mem_append.1 ho with ho | ho
      · exact exists_of_mem_map_parent hproto ho
      · exact hknown o ho
    · show (f.newInstance.steps history).finalParent =
        (Object.builder.steps (f.prototype.toList.map .parent ++ history)).finalParent
      rw [ObjectBuilder.steps_append, ← f.newInstance_eq_steps]
  | function o hparent =>
    obtain ⟨proto, hproto, rfl⟩ := Option.map_eq_some_iff.1 hc
    obtain ⟨hle, hlt, heq⟩ := (o.made_make supply).prototype proto hproto
    refine fresh_of_steps .ordinary
      (fun a ha => exists_of_mem_prototypeSteps hparent ha) ?_ hle hlt
    rw [heq]
    exact (finalParent_prototypeSteps o supply).symm

end Step

end Creation

/-! ### All objects -/

/-- The objects that can have been made, newest first, beside the supply that is left. -/
inductive Population : List (Creation γ) → Supply → Prop
  /-- At first none was made. -/
  | start : Population [] {}
  /-- A value was made. -/
  | step {made : List (Creation γ)} {supply later : Supply} {new : Option (Creation γ)}
      (h : Population made supply) (hstep : Creation.Step made supply new later) :
      Population (new.toList ++ made) later

namespace Population

variable {made : List (Creation γ)} {supply : Supply} {c d : Creation γ}

lemma limit_le (h : Population made supply) : Intrinsic.identityLimit ≤ supply.identity := by
  induction h with
  | start => exact Nat.le_refl _
  | step _ hstep ih => exact Nat.le_trans ih hstep.identity_le

/-- Whatever was made has an identity above the intrinsic ones and below those to come. -/
lemma bounds (h : Population made supply) (hc : c ∈ made) :
    Intrinsic.identityLimit ≤ c.object.identity ∧ c.object.identity < supply.identity := by
  induction h with
  | start => exact absurd hc List.not_mem_nil
  | step h hstep ih =>
    rcases List.mem_append.1 hc with hc | hc
    · have hfresh := hstep.fresh c (Option.mem_toList.1 hc)
      exact ⟨Nat.le_trans h.limit_le hfresh.le_identity, hfresh.identity_lt⟩
    · exact ⟨(ih hc).1, Nat.lt_of_lt_of_le (ih hc).2 hstep.identity_le⟩

/-- No two objects were made with one identity. -/
lemma eq_of_identity (h : Population made supply) (hc : c ∈ made) (hd : d ∈ made)
    (hsame : c.object.identity = d.object.identity) : c = d := by
  induction h with
  | start => exact absurd hc List.not_mem_nil
  | @step made supply later new h hstep ih =>
    -- what was made before is below the supply, and what is new is not
    have hnew : ∀ c ∈ new, ∀ d ∈ made, d.object.identity ≠ c.object.identity := by
      intro c hc d hd heq
      have hlt := (h.bounds hd).2
      rw [heq] at hlt
      exact absurd hlt (Nat.not_lt.2 (hstep.fresh c hc).le_identity)
    rcases List.mem_append.1 hc with hc | hc <;> rcases List.mem_append.1 hd with hd | hd
    · exact Option.mem_unique (Option.mem_toList.1 hc) (Option.mem_toList.1 hd)
    · exact absurd hsame.symm (hnew c (Option.mem_toList.1 hc) d hd)
    · exact absurd hsame (hnew d (Option.mem_toList.1 hd) c hc)
    · exact ih hc hd

lemma isBare_of_parent_eq_none (h : Population made supply) (hc : c ∈ made)
    (hnone : c.object.parent = none) : c.IsBare := by
  induction h with
  | start => exact absurd hc List.not_mem_nil
  | step _ hstep ih =>
    rcases List.mem_append.1 hc with hc | hc
    · exact (hstep.fresh c (Option.mem_toList.1 hc)).isBare hnone
    · exact ih hc

end Population

namespace Intrinsic

lemma position_lt (i : Intrinsic) : i.position < 16 := by
  cases i <;> decide

lemma position_injective {i j : Intrinsic} (h : i.position = j.position) : i = j := by
  cases i <;> cases j <;> first | rfl | exact absurd h (by decide)

lemma identity_toObject (i : Intrinsic) : (i.toObject : Object γ).identity = 32 * i.position := by
  cases i <;> rfl

lemma identity_lt_limit (i : Intrinsic) : (i.toObject : Object γ).identity < identityLimit := by
  rw [identity_toObject]
  exact Nat.mul_lt_mul_of_pos_left i.position_lt (by decide)

/-- Intrinsic objects inherit from the one for objects, which inherits from nothing. -/
lemma parent_toObject (i : Intrinsic) :
    (i.toObject : Object γ).parent = if i = .object then none else some root := by
  cases i <;> rfl

end Intrinsic

namespace Object.Exists

variable {made : List (Creation γ)} {supply : Supply} {o a p : Object γ}

lemma identity_lt (h : Population made supply) (ho : o.Exists made) :
    o.identity < supply.identity := by
  rcases ho with ⟨i, rfl⟩ | ⟨c, hc, rfl⟩
  · exact Nat.lt_of_lt_of_le i.identity_lt_limit h.limit_le
  · exact (h.bounds hc).2

/-- The parent of an object is there and was there before. -/
lemma parent (h : Population made supply) (ho : o.Exists made) (hp : o.parent = some p) :
    p.Exists made ∧ p.identity < o.identity := by
  rcases ho with ⟨i, rfl⟩ | ⟨c, hc, rfl⟩
  · rw [Intrinsic.parent_toObject] at hp
    split at hp
    · exact nomatch hp
    · next hi =>
      obtain rfl := Option.some.inj hp
      refine ⟨.inl ⟨.object, rfl⟩, ?_⟩
      have hpos : 0 < i.position := by
        refine Nat.pos_of_ne_zero fun hzero => hi ?_
        exact Intrinsic.position_injective hzero
      rw [Intrinsic.identity_toObject]
      exact Nat.mul_pos (by decide) hpos
  · induction h with
    | start => exact absurd hc List.not_mem_nil
    | @step made supply later new h hstep ih =>
      rcases List.mem_append.1 hc with hc | hc
      · have hfresh := hstep.fresh c (Option.mem_toList.1 hc)
        have hexists := hfresh.parent_exists p hp
        exact ⟨hexists.later _, Nat.lt_of_lt_of_le (hexists.identity_lt h) hfresh.le_identity⟩
      · exact ⟨(ih hc).1.later _, (ih hc).2⟩

/-- Objects that are the same one are equal. -/
lemma eq_of_identity (h : Population made supply) (ho : o.Exists made) (ha : a.Exists made)
    (hsame : o.identity = a.identity) : o = a := by
  rcases ho with ⟨i, rfl⟩ | ⟨c, hc, rfl⟩ <;> rcases ha with ⟨j, rfl⟩ | ⟨d, hd, rfl⟩
  · rw [Intrinsic.identity_toObject, Intrinsic.identity_toObject] at hsame
    rw [Intrinsic.position_injective (Nat.eq_of_mul_eq_mul_left (by decide) hsame)]
  · have hle := (h.bounds hd).1
    rw [← hsame] at hle
    exact absurd i.identity_lt_limit (Nat.not_lt.2 hle)
  · have hle := (h.bounds hc).1
    rw [hsame] at hle
    exact absurd j.identity_lt_limit (Nat.not_lt.2 hle)
  · rw [h.eq_of_identity hc hd hsame]

/-- Only the intrinsic object for objects, and objects that were to have no parent, have none. -/
lemma eq_root_or_isBare (h : Population made supply) (ho : o.Exists made)
    (hnone : o.parent = none) :
    o = Intrinsic.root ∨ ∃ c ∈ made, c.object = o ∧ c.IsBare := by
  rcases ho with ⟨i, rfl⟩ | ⟨c, hc, rfl⟩
  · rw [Intrinsic.parent_toObject] at hnone
    split at hnone
    · next hi => exact .inl (by rw [hi]; rfl)
    · exact nomatch hnone
  · exact .inr ⟨c, hc, rfl, h.isBare_of_parent_eq_none hc hnone⟩

end Object.Exists

end Narrowing
