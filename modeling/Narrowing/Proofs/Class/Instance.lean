import Narrowing.Value.Property
import Narrowing.Proofs.Class.Session
/-!
# Instances of classes

An instance is an ordinary object with the properties that were put on it, and it inherits
from the prototype of the function that it is made from.  The objects behind it are then the
prototypes of the lineage of that function and the intrinsic object.

So a property of an instance is found by what was put, without a look at any object: the last
put on the instance decides, or else the last put on the nearest class of the lineage that has
one under the key, or else the intrinsic object.
-/

namespace Narrowing

variable {γ : Type}

/-! ### The object that is made -/

/-- Makes an instance of a function and puts properties on it. -/
def Function.instantiate (f : Function γ) (puts : List (Key × Value γ)) : Build (Object γ) :=
  (f.newInstance.steps (puts.map fun put => .property put.1 put.2)).build

namespace ObjectBuilder

lemma parent_steps_property (b : ObjectBuilder γ) (puts : List (Key × Value γ)) :
    (b.steps (puts.map fun put => .property put.1 put.2)).parent = b.parent := by
  induction puts generalizing b with
  | nil => rfl
  | cons put rest ih => exact ih (b.property put.1 put.2)

lemma finalParent_steps_property (b : ObjectBuilder γ) (puts : List (Key × Value γ)) :
    (b.steps (puts.map fun put => .property put.1 put.2)).finalParent = b.finalParent := by
  rw [finalParent, parent_steps_property, content_steps, finalParent]

lemma filterMap_put?_property (puts : List (Key × Value γ)) :
    (puts.map fun put => ObjectStep.property put.1 put.2).filterMap ObjectStep.put? = puts := by
  rw [List.filterMap_map]
  exact List.filterMap_some

end ObjectBuilder

namespace Function

@[simp] lemma content_newInstance (f : Function γ) : f.newInstance.content = .ordinary := by
  unfold newInstance
  split <;> rfl

@[simp] lemma properties_newInstance (f : Function γ) : f.newInstance.properties = [] := by
  unfold newInstance
  split <;> rfl

lemma finalParent_newInstance (f : Function γ) :
    f.newInstance.finalParent = some (inheritedPrototype (some f)) := by
  unfold newInstance inheritedPrototype
  rw [Option.bind_some]
  cases f.prototype <;> rfl

/-- An instance is an ordinary object with the properties that were put on it. -/
lemma run_instantiate (f : Function γ) (puts : List (Key × Value γ)) (supply : Supply) :
    ((f.instantiate puts).run supply).1 =
      .mk supply.identity .ordinary (some (inheritedPrototype (some f)))
        (Table.ofPuts puts) := by
  show Object.mk supply.identity (ObjectBuilder.steps _ _).content
    (ObjectBuilder.steps _ _).finalParent (ObjectBuilder.steps _ _).properties = _
  rw [ObjectBuilder.content_steps, content_newInstance, ObjectBuilder.finalParent_steps_property,
    finalParent_newInstance, ObjectBuilder.properties_steps (properties_newInstance f),
    ObjectBuilder.filterMap_put?_property]

end Function

/-- What is made from a function that is no constructor inherits from the intrinsic object
only. -/
lemma Function.ancestors_instantiate {f : Function γ} (hf : f.isConstructor = false)
    (puts : List (Key × Value γ)) (s : Supply) :
    ((f.instantiate puts).run s).1.ancestors = [Intrinsic.root] := by
  have hinherited : inheritedPrototype (some f) = Intrinsic.root :=
    congrArg (·.getD Intrinsic.root) (prototype_eq_none hf)
  rw [run_instantiate, hinherited]
  rfl

namespace Session

variable {made : List (Definition γ)} {supply : Supply} {d e : Definition γ}

/-- An instance inherits from the prototypes of the lineage and the intrinsic object. -/
lemma ancestors_instantiate (h : Session made supply) (hd : d ∈ made)
    (hconstructor : d.function.isConstructor = true) (puts : List (Key × Value γ))
    (s : Supply) :
    ((d.function.instantiate puts).run s).1.ancestors =
      (lineage made d.function).filterMap Definition.prototype ++ [Intrinsic.root] := by
  obtain ⟨proto, hproto⟩ := Definition.exists_prototype hconstructor
  have hinherited : Function.inheritedPrototype (some d.function) = proto :=
    congrArg (·.getD Intrinsic.root) hproto
  rw [Function.run_instantiate, hinherited, ← h.prototype_chain d hd proto hproto]
  rfl

end Session

/-! ### What the properties are -/

lemma Object.getOwn?_ofPuts (identity : Nat) (parent : Option (Object γ))
    (puts : List (Key × Value γ)) (k : Key) :
    (Object.mk identity .ordinary parent (Table.ofPuts puts)).getOwn? k = lastPut? k puts :=
  Table.find?_ofPuts k puts

lemma Value.chain_object (o : Object γ) : (Value.object o).chain = o.ancestors := by
  cases o with
  | mk identity content parent properties => cases parent <;> rfl

namespace Session

variable {made : List (Definition γ)} {supply : Supply} {d : Definition γ}

lemma getOwn?_prototype (h : Session made supply) (hd : d ∈ made) {proto : Object γ}
    (hproto : d.prototype = some proto) (k : Key) :
    proto.getOwn? k = lastPut? k d.members := by
  rw [h.prototype_eq hd hproto, Object.getOwn?_ofPuts]

/-- Along the prototypes of constructors, a key is found as it was last put on the nearest
that it was put on. -/
lemma findSome?_getOwn? (h : Session made supply) (k : Key) (ds : List (Definition γ))
    (hds : ∀ e ∈ ds, e ∈ made ∧ e.function.isConstructor = true) :
    (ds.filterMap Definition.prototype).findSome? (fun o => o.getOwn? k) =
      ds.findSome? fun e => lastPut? k e.members := by
  induction ds with
  | nil => rfl
  | cons e rest ih =>
    obtain ⟨he, hconstructor⟩ := hds e List.mem_cons_self
    obtain ⟨proto, hproto⟩ := Definition.exists_prototype hconstructor
    rw [List.filterMap_cons_some hproto, List.findSome?_cons, List.findSome?_cons,
      h.getOwn?_prototype he hproto, ih fun e' he' => hds e' (List.mem_cons_of_mem _ he')]

end Session

/-- **The properties of an instance.**  Among functions that were made one after the other, a
property of an instance of a constructor is the one that was put last under its key, or else
the one put last on the nearest of the lineage that was given such a member, or else that of
the intrinsic object.  It is an own property in the first case only, and it is found in all
these cases and no other. -/
theorem get_instance_eq_nearest {made : List (Definition γ)} {supply : Supply}
    (session : Session made supply) {f : Function γ} (hf : Known made f)
    (hconstructor : f.isConstructor = true) (puts : List (Key × Value γ)) (s : Supply)
    (k : Key) :
    let v := Value.object ((f.instantiate puts).run s).1
    let inherited := (lineage made f).findSome? fun e => lastPut? k e.members
    v.get? k = (lastPut? k puts).or (inherited.or (Intrinsic.root.getOwn? k)) ∧
      (v.hasOwn k = true ↔ (lastPut? k puts).isSome = true) ∧
      (v.hasInChain k = true ↔ (lastPut? k puts).isSome = true ∨ inherited.isSome = true ∨
        ((Intrinsic.root : Object γ).getOwn? k).isSome = true) := by
  intro v inherited
  obtain ⟨d, hd, rfl⟩ := hf hconstructor
  have hown : v.getOwn? k = lastPut? k puts := by
    show Object.getOwn? ((d.function.instantiate puts).run s).1 k = _
    rw [Function.run_instantiate, Object.getOwn?_ofPuts]
  have hchain : v.chain.findSome? (fun o => o.getOwn? k) =
      inherited.or (Intrinsic.root.getOwn? k) := by
    have hlineage : ∀ e ∈ lineage made d.function,
        e ∈ made ∧ e.function.isConstructor = true := fun e he =>
      ⟨Session.mem_of_mem_lineage he, session.isConstructor_of_mem_lineage hd hconstructor he⟩
    rw [Value.chain_object, session.ancestors_instantiate hd hconstructor,
      List.findSome?_append, session.findSome?_getOwn? k _ hlineage, List.findSome?_singleton]
  have hget : v.get? k = (lastPut? k puts).or (inherited.or (Intrinsic.root.getOwn? k)) := by
    rw [Value.get?, hown, hchain]
  refine ⟨hget, ?_, ?_⟩
  · rw [Value.hasOwn, hown]
  · rw [Value.hasInChain, hget, Option.isSome_or, Option.isSome_or, Bool.or_eq_true,
      Bool.or_eq_true]

/-- A member that the parent was given under the text of a position is found under the
position. -/
theorem get_instance_of_inherited_member :
    let list : Function.Origin Unit :=
      .ofClass "List" [.member (.ofString "0") (.boolean true), .member (.string "kind") .null]
    let row : Function.Origin Unit :=
      .ofClass "Row" [.member (.string "kind") (.boolean false),
        .extends (list.make.run {}).1]
    let rowClass := (row.make.run (list.make.run {}).2).1
    let v := Value.object ((rowClass.instantiate [(.string "name", .null)]).run {}).1
    v.get? (.index 0) = some (.boolean true) := by
  intro list row rowClass v
  have hfirst : Session [list.define {}] (list.make.run {}).2 :=
    Session.start.make list fun _ hparent => nomatch hparent
  have hlist : Known [list.define {}] (list.make.run {}).1 := .newest (list.define {}) []
  have hsession := hfirst.make row fun f hparent => Option.some.inj hparent ▸ hlist
  exact (get_instance_eq_nearest hsession (.newest _ _) rfl _ _ _).1.trans rfl

end Narrowing
