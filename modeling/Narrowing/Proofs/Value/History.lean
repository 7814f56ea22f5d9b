import Mathlib.Tactic.Lemma
import Mathlib.Data.List.Induction
import Mathlib.Data.List.Nodup
import Narrowing.Value.Builder
/-!
# What a builder's history leaves

Objects and classes are built by a history of steps, and what they end up with can be read off
the history.  A table that steps put into holds under each key what was put last, and it has
the keys that were put, each at the place where it was put first.  A step puts at most one
key into a table, and `insertedKeys` is told which.

A class puts into two tables, and its methods are new functions, so that what a history of
steps leaves depends on the identities that are drawn on the way.  `ClassBuilder.LeftBy` says
all of it at once.

The inductions are on the history from its end, since a builder takes the last step last.
-/

namespace Narrowing

variable {γ : Type}

/-! ### Keys in the order in which they were first put -/

/-- The keys that a history puts, in the order in which they were first put. -/
def insertedKeys {σ : Type} (key? : σ → Option Key) (history : List σ) : List Key :=
  (history.filterMap key?).eraseDups

lemma eraseDups_append_singleton {α : Type} [BEq α] [LawfulBEq α] (items : List α) (item : α) :
    (items ++ [item]).eraseDups =
      if item ∈ items then items.eraseDups else items.eraseDups ++ [item] := by
  rw [List.eraseDups_append]
  by_cases h : item ∈ items <;> simp [List.removeAll, List.eraseDups_cons, h]

lemma eraseDups_map {α β : Type} [BEq α] [LawfulBEq α] [BEq β] [LawfulBEq β] {f : α → β}
    (hf : ∀ {a b}, f a = f b → a = b) (items : List α) :
    (items.map f).eraseDups = items.eraseDups.map f := by
  induction items using List.reverseRecOn with
  | nil => rfl
  | append_singleton items item ih =>
    have hmem : f item ∈ items.map f ↔ item ∈ items := by
      refine ⟨fun h => ?_, List.mem_map_of_mem⟩
      obtain ⟨a, ha, heq⟩ := List.mem_map.1 h
      exact hf heq ▸ ha
    rw [List.map_append, List.map_singleton, eraseDups_append_singleton,
      eraseDups_append_singleton, ih]
    by_cases h : item ∈ items <;> simp [h, hmem]

section InsertedKeys

variable {σ : Type} (key? : σ → Option Key)

@[simp] lemma insertedKeys_nil : insertedKeys key? [] = [] := rfl

/-- A step adds its key behind the others, unless it was put before. -/
lemma insertedKeys_append_singleton (history : List σ) (s : σ) :
    insertedKeys key? (history ++ [s]) =
      match key? s with
      | some key =>
        if key ∈ insertedKeys key? history then insertedKeys key? history
        else insertedKeys key? history ++ [key]
      | none => insertedKeys key? history := by
  rw [insertedKeys, List.filterMap_append]
  cases h : key? s with
  | none => simp [h, insertedKeys]
  | some key =>
    simp only [List.filterMap_cons, h, List.filterMap_nil, eraseDups_append_singleton,
      insertedKeys, List.mem_eraseDups]

lemma mem_insertedKeys {history : List σ} {s : σ} {key : Key} (hs : s ∈ history)
    (hkey : key? s = some key) : key ∈ insertedKeys key? history :=
  List.mem_eraseDups.2 (List.mem_filterMap.2 ⟨s, hs, hkey⟩)

lemma nodup_insertedKeys (history : List σ) : (insertedKeys key? history).Nodup := by
  induction history using List.reverseRecOn with
  | nil => exact List.nodup_nil
  | append_singleton history s ih =>
    rw [insertedKeys_append_singleton]
    split
    · split
      · exact ih
      · next hkey =>
        refine List.nodup_append.2 ⟨ih, List.nodup_singleton _, ?_⟩
        rintro a ha b hb rfl
        exact hkey (List.mem_singleton.1 hb ▸ ha)
    · exact ih

end InsertedKeys

/-! ### Tables that puts leave behind -/

lemma filterMap_append_singleton {σ τ : Type} (f : σ → Option τ) (items : List σ) (s : σ) :
    (items ++ [s]).filterMap f = items.filterMap f ++ (f s).toList := by
  rw [List.filterMap_append]
  cases h : f s <;> simp [h]

/-- What a history names last is what its last step names, if that names anything. -/
lemma getLast?_filterMap_append_singleton {σ τ : Type} (f : σ → Option τ) (items : List σ)
    (s : σ) : ((items ++ [s]).filterMap f).getLast? = (f s).or (items.filterMap f).getLast? := by
  rw [filterMap_append_singleton]
  cases f s <;> simp

section Puts

variable {α : Type}

/-- The table that puts leave behind, taken in order. -/
def Table.ofPuts (puts : List (Key × α)) : Table α :=
  puts.foldl (fun table p => Table.put p.1 p.2 table) []

/-- The value of the last put under a key. -/
def lastPut? (key : Key) (puts : List (Key × α)) : Option α := Table.find? key puts.reverse

@[simp] lemma lastPut?_nil (key : Key) : lastPut? key ([] : List (Key × α)) = none := rfl

lemma lastPut?_append_singleton (key : Key) (puts : List (Key × α)) (p : Key × α) :
    lastPut? key (puts ++ [p]) = if p.1 = key then some p.2 else lastPut? key puts := by
  simp [lastPut?, Table.find?_cons]

lemma lastPut?_eq_some_iff {key : Key} {puts : List (Key × α)} {value : α} :
    lastPut? key puts = some value ↔
      ∃ before after, puts = before ++ (key, value) :: after ∧ ∀ p ∈ after, p.1 ≠ key := by
  rw [lastPut?, Table.find?, List.lookup_eq_some_iff]
  constructor
  · rintro ⟨front, back, hputs, hfront⟩
    refine ⟨back.reverse, front.reverse, ?_, fun p hp heq => ?_⟩
    · rw [← List.reverse_reverse puts, hputs]
      simp
    · have hne := hfront p (List.mem_reverse.1 hp)
      simp [heq] at hne
  · rintro ⟨before, after, rfl, hafter⟩
    refine ⟨after.reverse, before.reverse, by simp, fun p hp => ?_⟩
    exact bne_iff_ne.2 (Ne.symm (hafter p (List.mem_reverse.1 hp)))

namespace Table

lemma ofPuts_append_singleton (puts : List (Key × α)) (p : Key × α) :
    ofPuts (puts ++ [p]) = put p.1 p.2 (ofPuts puts) := by
  simp [ofPuts]

lemma ofPuts_append_toList (puts : List (Key × α)) (p? : Option (Key × α)) :
    ofPuts (puts ++ p?.toList) =
      p?.elim (ofPuts puts) fun p => put p.1 p.2 (ofPuts puts) := by
  cases p? with
  | none => exact congrArg ofPuts (List.append_nil puts)
  | some p => exact ofPuts_append_singleton puts p

/-- A table holds what was put last. -/
lemma find?_ofPuts (key : Key) (puts : List (Key × α)) :
    find? key (ofPuts puts) = lastPut? key puts := by
  induction puts using List.reverseRecOn with
  | nil => rfl
  | append_singleton puts p ih =>
    rw [ofPuts_append_singleton, lastPut?_append_singleton]
    split
    · next hkey => rw [hkey, find?_put_self]
    · next hkey => rw [find?_put_of_ne (Ne.symm hkey), ih]

/-- The keys of a table come in the order in which they were first put. -/
lemma keys_ofPuts (puts : List (Key × α)) :
    (ofPuts puts).keys = (puts.map Prod.fst).eraseDups := by
  induction puts using List.reverseRecOn with
  | nil => rfl
  | append_singleton puts p ih =>
    rw [ofPuts_append_singleton, keys_put, ih, List.map_append, List.map_singleton,
      eraseDups_append_singleton]
    simp only [List.mem_eraseDups]

lemma nodup_keys_ofPuts (puts : List (Key × α)) : (ofPuts puts).keys.Nodup := by
  induction puts using List.reverseRecOn with
  | nil => exact List.nodup_nil
  | append_singleton puts p ih =>
    rw [ofPuts_append_singleton]
    exact nodup_keys_put ih

lemma put_of_not_mem {key : Key} {table : Table α} (h : key ∉ table.keys) (value : α) :
    put key value table = table ++ [(key, value)] := by
  induction table with
  | nil => rfl
  | cons entry rest ih =>
    rw [keys_cons, List.mem_cons, not_or] at h
    rw [put, if_neg (Ne.symm h.1), ih h.2, List.cons_append]

/-- Puts under distinct keys are the table that they leave behind. -/
lemma ofPuts_eq_self {puts : List (Key × α)} (h : (puts.map Prod.fst).Nodup) :
    ofPuts puts = puts := by
  induction puts using List.reverseRecOn with
  | nil => rfl
  | append_singleton puts p ih =>
    rw [List.map_append, List.nodup_append'] at h
    have hnew : p.1 ∉ keys puts := fun hmem => h.2.2 hmem (List.mem_singleton_self _)
    rw [ofPuts_append_singleton, ih h.1, put_of_not_mem hnew]

/-- The keys of a table are those that the steps of a history put. -/
lemma keys_ofPuts_filterMap {σ : Type} {put? : σ → Option (Key × α)} {key? : σ → Option Key}
    (hkey : ∀ s, (put? s).map Prod.fst = key? s) (history : List σ) :
    (ofPuts (history.filterMap put?)).keys = insertedKeys key? history := by
  rw [keys_ofPuts, List.map_filterMap, insertedKeys]
  simp only [hkey]

end Table

end Puts

/-! ### Objects -/

/-- The key that a step puts, if it puts one. -/
def ObjectStep.key? : ObjectStep γ → Option Key
  | property key _ => some key
  | parent _ => none
  | noParent => none

/-- What a step puts, if it puts something. -/
def ObjectStep.put? : ObjectStep γ → Option (Key × Value γ)
  | property key value => some (key, value)
  | parent _ => none
  | noParent => none

lemma ObjectStep.map_fst_put? (s : ObjectStep γ) : s.put?.map Prod.fst = s.key? := by
  cases s <;> rfl

namespace ObjectBuilder

lemma steps_append_singleton (b : ObjectBuilder γ) (history : List (ObjectStep γ))
    (s : ObjectStep γ) : b.steps (history ++ [s]) = (b.steps history).step s := by
  simp [steps]

@[simp] lemma content_step (b : ObjectBuilder γ) (s : ObjectStep γ) :
    (b.step s).content = b.content := by
  cases s <;> rfl

@[simp] lemma content_steps (b : ObjectBuilder γ) (history : List (ObjectStep γ)) :
    (b.steps history).content = b.content := by
  induction history using List.reverseRecOn with
  | nil => rfl
  | append_singleton history s ih => rw [steps_append_singleton, content_step, ih]

/-- The properties are what the steps put. -/
lemma properties_steps {b : ObjectBuilder γ} (hb : b.properties = [])
    (history : List (ObjectStep γ)) :
    (b.steps history).properties = Table.ofPuts (history.filterMap ObjectStep.put?) := by
  induction history using List.reverseRecOn with
  | nil => exact hb
  | append_singleton history s ih =>
    rw [steps_append_singleton, filterMap_append_singleton, Table.ofPuts_append_toList, ← ih]
    cases s <;> rfl

/-- The properties have the keys that were put, in the order in which they were first put. -/
lemma keys_properties_steps {b : ObjectBuilder γ} (hb : b.properties = [])
    (history : List (ObjectStep γ)) :
    (b.steps history).properties.keys = insertedKeys ObjectStep.key? history := by
  rw [properties_steps hb, Table.keys_ofPuts_filterMap ObjectStep.map_fst_put?]

end ObjectBuilder

/-! ### Classes -/

namespace ClassStep

/-- The key that a step puts on the prototype, if it puts one. -/
def memberKey? : ClassStep γ → Option Key
  | method name => some (.ofString name)
  | member key _ => some key
  | _ => none

/-- What a step puts on the prototype, if it puts something: a method is a new function. -/
def memberPut? : ClassStep γ → Build (Option (Key × Value γ))
  | method name => do
    let method ← Function.ofKind name .method
    return some (.ofString name, .function method)
  | member key value => return some (key, value)
  | _ => return none

/-- What a history puts on the prototype, in order. -/
def memberPuts (history : List (ClassStep γ)) : Build (List (Key × Value γ)) :=
  history.foldlM (fun puts s => return puts ++ (← s.memberPut?).toList) []

/-- What a step puts on the constructor, if it puts something. -/
def staticPut? : ClassStep γ → Option (Key × Value γ)
  | static key value => some (key, value)
  | _ => none

/-- The key that a step puts on the constructor, if it puts one. -/
def staticKey? : ClassStep γ → Option Key
  | static key _ => some key
  | _ => none

lemma map_fst_staticPut? (s : ClassStep γ) : s.staticPut?.map Prod.fst = s.staticKey? := by
  cases s <;> rfl

/-- The parent that a step names, if it names one. -/
def parent? : ClassStep γ → Option (Function γ)
  | «extends» parent => some parent
  | _ => none

/-- The parent that a history names last. -/
def lastParent? (history : List (ClassStep γ)) : Option (Function γ) :=
  (history.filterMap parent?).getLast?

end ClassStep

namespace ClassStep

lemma run_memberPuts_append_singleton (history : List (ClassStep γ)) (s : ClassStep γ)
    (supply : Supply) :
    (memberPuts (history ++ [s])).run supply =
      (((memberPuts history).run supply).1 ++
          ((s.memberPut?.run ((memberPuts history).run supply).2).1).toList,
        (s.memberPut?.run ((memberPuts history).run supply).2).2) := by
  rw [memberPuts, List.foldlM_append]
  rfl

lemma map_fst_run_memberPut? (s : ClassStep γ) (supply : Supply) :
    (s.memberPut?.run supply).1.map Prod.fst = s.memberKey? := by
  cases s <;> rfl

/-- The members have the keys that were put, in order. -/
lemma map_fst_run_memberPuts (history : List (ClassStep γ)) (supply : Supply) :
    ((memberPuts history).run supply).1.map Prod.fst = history.filterMap memberKey? := by
  induction history using List.reverseRecOn with
  | nil => rfl
  | append_singleton history s ih =>
    rw [run_memberPuts_append_singleton, filterMap_append_singleton, List.map_append, ih,
      ← Option.toList_map, map_fst_run_memberPut?]

lemma lastParent?_append_singleton (history : List (ClassStep γ)) (s : ClassStep γ) :
    lastParent? (history ++ [s]) = s.parent?.or (lastParent? history) :=
  getLast?_filterMap_append_singleton parent? history s

end ClassStep

namespace ClassBuilder

open ClassStep (memberPuts staticPut? lastParent?)

/-- What an empty builder becomes by a history of steps, from a supply of identities on. -/
structure LeftBy (history : List (ClassStep γ)) (start : Supply) (b : ClassBuilder γ)
    (rest : Supply) : Prop where
  parent : b.parent = lastParent? history
  members : b.members = Table.ofPuts ((memberPuts history).run start).1
  statics : b.statics = Table.ofPuts (history.filterMap staticPut?)
  supply : rest = ((memberPuts history).run start).2

/-- A step adds to a history what it does to the builder. -/
lemma LeftBy.step {history : List (ClassStep γ)} {start rest : Supply} {b : ClassBuilder γ}
    (h : LeftBy history start b rest) (s : ClassStep γ) :
    LeftBy (history ++ [s]) start ((b.step s).run rest).1 ((b.step s).run rest).2 := by
  obtain ⟨hparent, hmembers, hstatics, rfl⟩ := h
  refine ⟨?_, ?_, ?_, ?_⟩
  · rw [ClassStep.lastParent?_append_singleton, ← hparent]
    cases s <;> rfl
  · rw [ClassStep.run_memberPuts_append_singleton, Table.ofPuts_append_toList, ← hmembers]
    cases s <;> rfl
  · rw [filterMap_append_singleton, Table.ofPuts_append_toList, ← hstatics]
    cases s <;> rfl
  · rw [ClassStep.run_memberPuts_append_singleton]
    cases s <;> rfl

lemma run_steps_append_singleton (b : ClassBuilder γ) (history : List (ClassStep γ))
    (s : ClassStep γ) (supply : Supply) :
    (b.steps (history ++ [s])).run supply =
      (((b.steps history).run supply).1.step s).run ((b.steps history).run supply).2 := by
  rw [steps, List.foldlM_append]
  rfl

lemma leftBy_steps (name : String) (history : List (ClassStep γ)) (supply : Supply) :
    LeftBy history supply ((steps { name } history).run supply).1
      ((steps { name } history).run supply).2 := by
  induction history using List.reverseRecOn with
  | nil => exact ⟨rfl, rfl, rfl, rfl⟩
  | append_singleton history s ih =>
    rw [run_steps_append_singleton]
    exact ih.step s

end ClassBuilder

/-! ### The prototype of a class -/

/-- The object that a prototype inherits from: the prototype of the parent, if the parent is a
constructor, and else the intrinsic one. -/
def Function.inheritedPrototype (parent : Option (Function γ)) : Object γ :=
  (parent.bind Function.prototype).getD Intrinsic.root

namespace ClassBuilder

lemma finalParent_prototypeBuilder (b : ClassBuilder γ) :
    b.prototypeBuilder.finalParent = some (Function.inheritedPrototype b.parent) := by
  unfold prototypeBuilder Function.inheritedPrototype
  cases b.parent.bind Function.prototype <;> rfl

@[simp] lemma content_prototypeBuilder (b : ClassBuilder γ) :
    b.prototypeBuilder.content = .ordinary := by
  unfold prototypeBuilder
  split <;> rfl

@[simp] lemma properties_prototypeBuilder (b : ClassBuilder γ) :
    b.prototypeBuilder.properties = b.members := by
  unfold prototypeBuilder
  split <;> rfl

/-- The prototype of a finished class is an ordinary object with the members as properties. -/
lemma prototype_build (b : ClassBuilder γ) (supply : Supply) :
    (b.build.run supply).1.prototype =
      some (.mk supply.identity .ordinary (some (Function.inheritedPrototype b.parent))
        b.members) := by
  show some (Object.mk supply.identity b.prototypeBuilder.content
    b.prototypeBuilder.finalParent b.prototypeBuilder.properties) = _
  rw [content_prototypeBuilder, properties_prototypeBuilder, finalParent_prototypeBuilder]

end ClassBuilder

/-- The prototype of a class is an ordinary object that holds what was put on it and inherits
from the prototype of the parent named last. -/
lemma prototype_run_ofClass (name : String) (history : List (ClassStep γ)) (supply : Supply) :
    ((Function.ofClass name history).run supply).1.prototype =
      some (.mk ((ClassStep.memberPuts history).run supply).2.identity .ordinary
        (some (Function.inheritedPrototype (ClassStep.lastParent? history)))
        (Table.ofPuts ((ClassStep.memberPuts history).run supply).1)) := by
  obtain ⟨hparent, hmembers, -, hrest⟩ := ClassBuilder.leftBy_steps name history supply
  rw [← hparent, ← hmembers, ← hrest]
  exact ClassBuilder.prototype_build _ _

/-- The prototype of a class is an ordinary object with the keys that were put on it, in the
order in which they were first put. -/
lemma prototype_ofClass (name : String) (history : List (ClassStep γ)) (supply : Supply) :
    ∃ o, ((Function.ofClass name history).run supply).1.prototype = some o ∧
      o.content = .ordinary ∧
      o.properties.keys = insertedKeys ClassStep.memberKey? history := by
  refine ⟨_, prototype_run_ofClass name history supply, rfl, ?_⟩
  show (Table.ofPuts _).keys = _
  rw [Table.keys_ofPuts, ClassStep.map_fst_run_memberPuts]
  rfl

end Narrowing
