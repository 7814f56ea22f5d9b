import Mathlib.Data.List.Forall2
import Narrowing.Token
import Narrowing.Proofs.Key.Text
import Narrowing.Proofs.Number.Nearest
import Narrowing.Proofs.Value.Written
/-!
# Reading data back

Data that is made of nothing, truth values, numbers, texts, sequences and maps with texts for
names always has a value, and what a program reads off the value is the data.  The places of an
array are the items of a sequence, and the own properties of an object are the members of a
map: a name that comes again keeps its place among the names, and its property is the member
that came last.  Names that are numerals of indices become indices and are listed first.

A value is built along the data, so the induction is on the data, and `ReadBuild.Gives` says of
a computation that it has a result and what is known of it.  A map is read by a series of puts
into a table, of which the general facts about tables hold.
-/

namespace Narrowing

variable {γ : Type}

/-! ### Data and its values -/

/-- A map whose names are texts. -/
def Token.record (members : List (String × Token)) : Token :=
  .map (members.map fun m => (.text m.1, m.2))

/-- Data that is made of nothing, truth values, numbers of at most 64 bits, texts, sequences and
maps whose names are texts. -/
inductive Token.Readable : Token → Prop
  | unit : Readable .unit
  | none : Readable .none
  | some {content : Token} : Readable content → Readable (.some content)
  | boolean (b : Bool) : Readable (.boolean b)
  | integer {n : Int} : -2 ^ 63 ≤ n → n < 2 ^ 64 → Readable (.integer n)
  | number (x : Double) : Readable (.number x)
  | text (s : String) : Readable (.text s)
  | sequence {items : List Token} : (∀ item ∈ items, Readable item) → Readable (.sequence items)
  | record {members : List (String × Token)} :
    (∀ m ∈ members, Readable m.2) → Readable (.record members)

/-- An object is an array of values without further properties.  If there are less than `2 ^ 32`
of them, its length is their number and its properties are the values. -/
structure Object.IsArray (o : Object γ) (values : List (Value γ)) : Prop where
  content : o.content = .array values
  parent : o.parent = some Intrinsic.array.toObject
  properties : o.properties = []
  length : values.length < 2 ^ 32 →
    ∃ x, o.getOwn? .length = some (.number x) ∧ x.toInt? = some values.length
  place : values.length < 2 ^ 32 → ∀ i < values.length, o.getOwn? (.ofNat i) = values[i]?

/-- An object is an ordinary one that has own properties under some names and no others.  They
are listed with the indices first, in ascending order, and then the other names, in the order in
which they first come. -/
structure Object.IsRecord (o : Object γ) (names : List String) : Prop where
  content : o.content = .ordinary
  parent : o.parent = some Intrinsic.object.toObject
  ownKeys : ∃ indices : List UInt32, indices.Pairwise (· < ·) ∧
    (∀ n, n ∈ indices ↔ n.toNat < Key.indexLimit ∧ toString n.toNat ∈ names) ∧
    o.ownKeys = indices.map .index ++
      (names.eraseDups.filter fun name => ¬ Key.IsNumeral name).map .string
  hasOwn : ∀ k, o.hasOwn k = true ↔ k ∈ o.ownKeys

/-- A program reads the data off the value. -/
inductive Value.ReadsAs : Value γ → Token → Prop
  | unit : ReadsAs null .unit
  | none : ReadsAs null .none
  | some {v : Value γ} {content : Token} : ReadsAs v content → ReadsAs v (.some content)
  | boolean (b : Bool) : ReadsAs (boolean b) (.boolean b)
  | integer {n : Int} {x : Double} : x.IsNearest n → ReadsAs (number x) (.integer n)
  | number (x : Double) : ReadsAs (number x) (.number x)
  | text (s : String) : ReadsAs (string s) (.text s)
  | sequence {o : Object γ} {items : List Token} {values : List (Value γ)} :
    o.IsArray values → values.length = items.length →
    (∀ (i : Nat) (item : Token) (value : Value γ), items[i]? = some item →
      values[i]? = some value → ReadsAs value item) →
    ReadsAs (object o) (.sequence items)
  | record {o : Object γ} {members : List (String × Token)} :
    o.IsRecord (members.map Prod.fst) →
    (∀ name content value, members.reverse.lookup name = some content →
      o.getOwn? (.ofString name) = some value → ReadsAs value content) →
    ReadsAs (object o) (.record members)

/-- A value is data all the way down: nothing, a truth value, a number, a text, an array of data
without further properties, or an ordinary object whose own properties are data. -/
inductive Value.IsData : Value γ → Prop
  | null : IsData null
  | boolean (b : Bool) : IsData (boolean b)
  | number (x : Double) : IsData (number x)
  | string (s : String) : IsData (string s)
  | array {o : Object γ} {elements : List (Value γ)} :
    o.content = .array elements → o.properties = [] → (∀ v ∈ elements, IsData v) →
    IsData (object o)
  | record {o : Object γ} :
    o.content = .ordinary → (∀ k v, o.getOwn? k = some v → IsData v) → IsData (object o)

/-! ### Computations that have a result -/

namespace ReadBuild

variable {α β : Type}

/-- From any supply of identities the computation has a result, of which something is known. -/
def Gives (x : ReadBuild α) (P : α → Prop) : Prop :=
  ∀ supply, ∃ a rest, x.run.run supply = (.ok a, rest) ∧ P a

lemma Gives.pure {P : α → Prop} {a : α} (h : P a) : Gives (Pure.pure a) P :=
  fun supply => ⟨a, supply, rfl, h⟩

lemma Gives.lift {P : α → Prop} {x : Build α} (h : ∀ supply, P (x.run supply).1) :
    Gives (liftM x) P :=
  fun supply => ⟨(x.run supply).1, (x.run supply).2, rfl, h supply⟩

lemma Gives.bind {P : α → Prop} {Q : β → Prop} {x : ReadBuild α} {f : α → ReadBuild β}
    (hx : Gives x P) (hf : ∀ a, P a → Gives (f a) Q) : Gives (x >>= f) Q := by
  intro supply
  obtain ⟨a, rest, hrun, ha⟩ := hx supply
  obtain ⟨b, rest', hrun', hb⟩ := hf a ha rest
  refine ⟨b, rest', ?_, hb⟩
  rw [ExceptT.run_bind, StateT.run_bind, hrun]
  exact hrun'

end ReadBuild

open ReadBuild (Gives)

section Loops

variable {P : Value γ → Token → Prop}

/-- The values of several tokens are read one by one. -/
lemma gives_itemValues {items : List Token}
    (h : ∀ item ∈ items, Gives item.toValue fun v => P v item) :
    Gives (itemValues items) fun values => List.Forall₂ P values items := by
  induction items with
  | nil => exact .pure .nil
  | cons item rest ih =>
    have hrest := ih fun other hother => h other (List.mem_cons_of_mem _ hother)
    refine (h item List.mem_cons_self).bind fun v hv => ?_
    refine hrest.bind fun values hvalues => ?_
    exact .pure (.cons hv hvalues)

/-- What is put for a member: its value, under the key of its name. -/
def IsPutFor (P : Value γ → Token → Prop) (p : Key × Value γ) (m : String × Token) : Prop :=
  p.1 = .ofString m.1 ∧ P p.2 m.2

/-- A map is read by a put for each member. -/
lemma gives_putMembers {members : List (String × Token)}
    (h : ∀ m ∈ members, Gives m.2.toValue fun v => P v m.2) (b : ObjectBuilder γ) :
    Gives (putMembers (members.map fun m => (.text m.1, m.2)) b) fun b' =>
      ∃ puts, List.Forall₂ (IsPutFor P) puts members ∧
        b' = { b with
          properties := puts.foldl (fun table p => Table.put p.1 p.2 table) b.properties } := by
  induction members generalizing b with
  | nil => exact .pure ⟨[], .nil, rfl⟩
  | cons m rest ih =>
    have hrest := ih fun other hother => h other (List.mem_cons_of_mem _ hother)
    refine Gives.bind (P := (· = m.1)) (.pure rfl) ?_
    rintro name rfl
    refine (h m List.mem_cons_self).bind fun v hv => ?_
    intro supply
    obtain ⟨b', supply', hrun, puts, hputs, rfl⟩ := hrest (b.property (.ofString m.1) v) supply
    exact ⟨_, supply', hrun, (.ofString m.1, v) :: puts, .cons ⟨rfl, hv⟩ hputs, rfl⟩

end Loops

/-! ### Sequences -/

lemma rel_of_getElem?_eq_some {α β : Type} {R : α → β → Prop} {as : List α} {bs : List β}
    (h : List.Forall₂ R as bs) {i : Nat} {a : α} {b : β} (ha : as[i]? = some a)
    (hb : bs[i]? = some b) : R a b := by
  obtain ⟨hi, rfl⟩ := List.getElem?_eq_some_iff.1 ha
  obtain ⟨hi', rfl⟩ := List.getElem?_eq_some_iff.1 hb
  exact (List.forall₂_iff_get.1 h).2 i hi hi'

lemma Object.isArray_run_array (values : List (Value γ)) (supply : Supply) :
    ((Object.array values).run supply).1.IsArray values where
  content := rfl
  parent := rfl
  properties := rfl
  length hlength := ⟨_, rfl, Double.toInt?_ofNat (Nat.lt_trans hlength (by decide))⟩
  place hlength i hi := by
    have hlimit : i < Key.indexLimit := by
      unfold Key.indexLimit
      omega
    rw [Key.ofNat_of_lt hlimit]
    show (values[(UInt32.ofNat i).toNat]?).or none = values[i]?
    rw [toNat_ofNat_of_lt_indexLimit hlimit, Option.or_none]

/-! ### Maps -/

lemma map_fst_of_puts {P : Value γ → Token → Prop} {puts : List (Key × Value γ)}
    {members : List (String × Token)} (h : List.Forall₂ (IsPutFor P) puts members) :
    puts.map Prod.fst = (members.map Prod.fst).map .ofString := by
  induction h with
  | nil => rfl
  | cons hput _ ih => rw [List.map_cons, hput.1, ih, List.map_cons, List.map_cons]

/-- What is found under a name was put for the member that is found under it. -/
lemma rel_of_lookup_eq_some {P : Value γ → Token → Prop} {puts : List (Key × Value γ)}
    {members : List (String × Token)} (h : List.Forall₂ (IsPutFor P) puts members) {name : String}
    {content : Token} {value : Value γ} (hmember : members.lookup name = some content)
    (hput : Table.find? (.ofString name) puts = some value) : P value content := by
  induction h with
  | nil => exact nomatch hmember
  | @cons p m _ _ hpm _ ih =>
    rw [Table.find?_cons, hpm.1] at hput
    rw [List.lookup_cons] at hmember
    by_cases hname : name = m.1
    · rw [hname, BEq.rfl] at hmember
      rw [hname, if_pos rfl] at hput
      rw [← Option.some.inj hmember, ← Option.some.inj hput]
      exact hpm.2
    · have hkey : Key.ofString m.1 ≠ .ofString name := fun heq =>
        hname (Key.ofString_injective heq).symm
      rw [if_neg hkey] at hput
      rw [beq_false_of_ne hname] at hmember
      exact ih hmember hput

namespace Object

/-- The own keys of an ordinary object whose properties were put under some names are these
names: the indices among them, and the others. -/
lemma ownKeys_of_names {o : Object γ} {names : List String} (hcontent : o.content = .ordinary)
    (hkeys : o.properties.keys = names.eraseDups.map .ofString)
    (hlisted : Key.Listed [] o.properties.keys o.ownKeys) :
    ∃ indices : List UInt32, indices.Pairwise (· < ·) ∧
      (∀ n, n ∈ indices ↔ n.toNat < Key.indexLimit ∧ toString n.toNat ∈ names) ∧
      o.ownKeys = indices.map .index ++
        (names.eraseDups.filter fun name => ¬ Key.IsNumeral name).map .string := by
  obtain ⟨indices, hascending, hlist⟩ := hlisted
  have htexts : (o.properties.keys.filter fun k => k.isText && !([] : List Key).contains k) =
      (names.eraseDups.filter fun name => ¬ Key.IsNumeral name).map .string := by
    rw [← Key.filter_isText_map_ofString, hkeys]
    exact List.filter_congr fun k _ => Bool.and_true _
  have hsymbols : o.properties.keys.filter Key.isSymbol = [] := by
    rw [hkeys, Key.filter_isSymbol_map_ofString]
  rw [htexts, hsymbols, List.nil_append, List.append_nil] at hlist
  refine ⟨indices, hascending, fun n => ?_, hlist⟩
  -- an index is listed exactly if it was put
  have hindex : n ∈ indices ↔ .index n ∈ o.ownKeys := by simp [hlist]
  rw [hindex, mem_ownKeys_iff, hcontent, hkeys, Key.mem_map_ofString_iff, List.mem_eraseDups]
  exact or_iff_right List.not_mem_nil

/-- An ordinary object that holds what was put under some names is a record of these names. -/
lemma isRecord_of_puts (identity : Nat) {puts : List (Key × Value γ)} {names : List String}
    (hputs : puts.map Prod.fst = names.map .ofString) :
    (mk identity .ordinary (some Intrinsic.object.toObject) (Table.ofPuts puts)).IsRecord
      names := by
  have hkeys : (Table.ofPuts puts).keys = names.eraseDups.map .ofString := by
    rw [Table.keys_ofPuts, hputs, eraseDups_map Key.ofString_injective]
  have hlaw : OwnKeysLaw _ _ [] (Table.ofPuts puts).keys :=
    ownKeysLaw (o := mk identity .ordinary (some Intrinsic.object.toObject) (Table.ofPuts puts))
      (Nat.zero_le _) (Table.nodup_keys_ofPuts puts)
  exact {
    content := rfl
    parent := rfl
    ownKeys := ownKeys_of_names rfl hkeys hlaw.listed
    hasOwn := fun k => (hlaw.mem_iff k).symm }

end Object

namespace Value

/-- The value of a map reads as the map. -/
lemma readsAs_record {puts : List (Key × Value γ)} {members : List (String × Token)}
    (h : List.Forall₂ (IsPutFor ReadsAs) puts members) (identity : Nat) :
    ReadsAs (object (.mk identity .ordinary (some Intrinsic.object.toObject)
      (Table.ofPuts puts))) (.record members) := by
  refine .record (Object.isRecord_of_puts identity (map_fst_of_puts h)) ?_
  intro name content value hmember hown
  have hput : Table.find? (.ofString name) puts.reverse = some value := by
    rw [← hown]
    show _ = (Table.find? (.ofString name) (Table.ofPuts puts))
    rw [Table.find?_ofPuts]
    rfl
  exact rel_of_lookup_eq_some (List.rel_reverse h) hmember hput

end Value

/-! ### Data -/

/-- The value of readable data reads as the data. -/
lemma Token.Readable.gives_toValue {token : Token} (h : token.Readable) :
    Gives (token.toValue : ReadBuild (Value γ)) fun v => v.ReadsAs token := by
  induction h with
  | unit => exact .pure .unit
  | none => exact .pure .none
  | some _ ih =>
    intro supply
    obtain ⟨v, rest, hrun, hv⟩ := ih supply
    exact ⟨v, rest, hrun, .some hv⟩
  | boolean b => exact .pure (.boolean b)
  | @integer n hlow hhigh =>
    have hsize : n.natAbs < 2 ^ 64 := by omega
    exact .pure (.integer (Double.isNearest_ofInt hsize (by decide)))
  | number x => exact .pure (.number x)
  | text s => exact .pure (.text s)
  | @sequence items _ ih =>
    refine (gives_itemValues ih).bind fun values hvalues => ?_
    have harray : Gives (liftM (Object.array values : Build (Object γ))) (·.IsArray values) :=
      .lift (Object.isArray_run_array values)
    refine harray.bind fun o ho => ?_
    refine .pure (.sequence ho hvalues.length_eq ?_)
    intro i item value hitem hvalue
    exact rel_of_getElem?_eq_some hvalues hvalue hitem
  | @record members _ ih =>
    refine (gives_putMembers ih Object.builder).bind ?_
    rintro b ⟨puts, hputs, rfl⟩
    have hbuild : Gives (liftM (ObjectBuilder.build { Object.builder with
        properties := Table.ofPuts puts } : Build (Object γ)))
        fun o => (Value.object o).ReadsAs (.record members) :=
      .lift fun supply => Value.readsAs_record hputs supply.identity
    exact hbuild.bind fun o ho => .pure ho

lemma Object.IsRecord.exists_name {o : Object γ} {names : List String} (h : o.IsRecord names)
    {k : Key} (hk : o.hasOwn k = true) : ∃ name ∈ names, k = .ofString name := by
  obtain ⟨indices, -, hindices, hlisted⟩ := h.ownKeys
  rw [h.hasOwn, hlisted, List.mem_append, List.mem_map, List.mem_map] at hk
  rcases hk with ⟨n, hn, rfl⟩ | ⟨name, hname, rfl⟩
  · obtain ⟨hlimit, hname⟩ := (hindices n).1 hn
    exact ⟨_, hname, ((Key.ofString_eq_index_iff _ n).2 ⟨hlimit, rfl⟩).symm⟩
  · obtain ⟨hname, hnot⟩ := List.mem_filter.1 hname
    refine ⟨name, List.mem_eraseDups.1 hname, (Key.ofString_of_not_isNumeral ?_).symm⟩
    exact of_decide_eq_true hnot

lemma exists_lookup_reverse {α : Type} {members : List (String × α)} {name : String}
    (h : name ∈ members.map Prod.fst) : ∃ content, members.reverse.lookup name = some content := by
  refine Option.ne_none_iff_exists'.1 fun hnone => ?_
  obtain ⟨m, hm, rfl⟩ := List.mem_map.1 h
  have hne := List.lookup_eq_none_iff.1 hnone m (List.mem_reverse.2 hm)
  simp at hne

/-- A value that reads as data is data all the way down. -/
lemma Value.isData_of_readsAs {v : Value γ} {token : Token} (h : v.ReadsAs token) : v.IsData := by
  induction h with
  | unit => exact .null
  | none => exact .null
  | some _ ih => exact ih
  | boolean b => exact .boolean b
  | integer _ => exact .number _
  | number x => exact .number x
  | text s => exact .string s
  | @sequence o items values ho hlength _ ih =>
    refine .array ho.content ho.properties fun v hv => ?_
    obtain ⟨i, hi, rfl⟩ := List.mem_iff_getElem.1 hv
    have hitem : items[i]? = some items[i] := List.getElem?_eq_getElem (hlength ▸ hi)
    exact ih i _ _ hitem (List.getElem?_eq_getElem hi)
  | @record o members ho _ ih =>
    refine .record ho.content fun k value hvalue => ?_
    have hown : o.hasOwn k = true := by rw [Object.hasOwn, hvalue]; rfl
    obtain ⟨name, hname, rfl⟩ := ho.exists_name hown
    obtain ⟨content, hcontent⟩ := exists_lookup_reverse hname
    exact ih name content value hcontent hvalue

/-- **Data reads back.**  Readable data has a value, whatever identities are left, and a program
reads the data off the value.  Nothing else occurs in the value. -/
theorem readable_reads_back {token : Token} (h : token.Readable) (supply : Supply) :
    ∃ (v : Value γ) (rest : Supply), token.toValue.run.run supply = (.ok v, rest) ∧
      v.ReadsAs token ∧ v.IsData := by
  obtain ⟨v, rest, hrun, hv⟩ := h.gives_toValue supply
  exact ⟨v, rest, hrun, hv, Value.isData_of_readsAs hv⟩

/-- Names that are numerals, names that only look like them, and a name that comes twice. -/
theorem readable_reads_back_of_repeated_name :
    let token : Token := .record [("b", .integer 1), ("00", .text "x"), ("4294967295", .none),
      ("0", .some (.boolean true)), ("b", .sequence [.unit, .number .zero])]
    token.Readable ∧ ∃ (v : Value Unit) (rest : Supply),
      token.toValue.run.run {} = (.ok v, rest) ∧ v.ReadsAs token ∧ v.IsData ∧
        (v.getOwn? (.string "b")).map Value.typeOf = some "object" ∧
        v.hasOwn (.index 0) = true ∧ v.hasOwn (.string "4294967295") = true := by
  intro token
  have hreadable : token.Readable := by
    refine .record ?_
    simp only [List.forall_mem_cons]
    refine ⟨.integer (by decide) (by decide), .text _, .none, .some (.boolean _), ?_, ?_⟩
    · refine .sequence ?_
      simp only [List.forall_mem_cons]
      exact ⟨.unit, .number _, fun _ h => nomatch h⟩
    · exact fun _ h => nomatch h
  obtain ⟨v, rest, hrun, hreads, hdata⟩ := readable_reads_back (γ := Unit) hreadable {}
  refine ⟨hreadable, v, rest, hrun, hreads, hdata, ?_⟩
  have hread : (token.toValue.run.run {}).1.toOption.map (fun v : Value Unit =>
      ((v.getOwn? (.string "b")).map Value.typeOf, v.hasOwn (.index 0),
        v.hasOwn (.string "4294967295"))) = some (some "object", true, true) := by
    decide +kernel
  rw [hrun] at hread
  simpa [Except.toOption] using hread

end Narrowing
