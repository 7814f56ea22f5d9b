import Mathlib.Algebra.Group.Nat.Defs
import Mathlib.Data.List.Basic
import Narrowing.Token.Delivery
/-!
# Which data can be read

A reader meets the parts of a piece of data in order, and three kinds of parts are in its way:
wrapped data, bytes and unsigned integers of 128 bits.  In front of a member of a map stands
its name, which is in the way unless it is a text.  `Token.obstacles` lists what is in the way.
The data has a value exactly if the list is empty, and otherwise the first of the list is the error,
whatever comes after it.

Plain data has no wrapped parts and no bytes, and its names are texts.  What is left to be in its
way are unsigned integers of 128 bits, however small they are: signed integers of 128 bits are
read, and so are unsigned ones of at most 64 bits.
-/

namespace Narrowing

variable {γ : Type}

/-! ### Computations that end with their first obstacle -/

namespace ReadBuild

variable {α β : Type}

/-- Whatever identities are left, the computation has a result only if nothing is in its way, and
it fails only with the first thing that is. -/
def StopsAtFirst (x : ReadBuild α) (obstacles : List TokenError) : Prop :=
  ∀ supply, match (x.run.run supply).1 with
    | .ok _ => obstacles = []
    | .error error => obstacles.head? = some error

namespace StopsAtFirst

lemma pure (a : α) : StopsAtFirst (Pure.pure a) [] := fun _ => rfl

lemma throw (error : TokenError) : StopsAtFirst (throw error : ReadBuild α) [error] :=
  fun _ => rfl

lemma lift (x : Build α) : StopsAtFirst (liftM x) [] := fun _ => rfl

/-- What is in the way of a computation comes before what is in the way of the next. -/
lemma bind {x : ReadBuild α} {f : α → ReadBuild β} {before after : List TokenError}
    (hx : StopsAtFirst x before) (hf : ∀ a, StopsAtFirst (f a) after) :
    StopsAtFirst (x >>= f) (before ++ after) := by
  intro supply
  have hfirst := hx supply
  rw [ExceptT.run_bind, StateT.run_bind]
  generalize x.run.run supply = outcome at hfirst ⊢
  obtain ⟨error | a, rest⟩ := outcome
  · exact List.mem_head?_append_of_mem_head? hfirst
  · obtain rfl : before = [] := hfirst
    exact hf a rest

/-- A computation that only changes its result stops where it stopped before. -/
lemma map_result {x : ReadBuild α} {f : α → ReadBuild β} {obstacles : List TokenError}
    (hx : StopsAtFirst x obstacles) (hf : ∀ a, StopsAtFirst (f a) []) :
    StopsAtFirst (x >>= f) obstacles :=
  List.append_nil obstacles ▸ hx.bind hf

lemma ok_iff {x : ReadBuild α} {obstacles : List TokenError} (hx : StopsAtFirst x obstacles)
    (supply : Supply) : (∃ a rest, x.run.run supply = (.ok a, rest)) ↔ obstacles = [] := by
  have hfirst := hx supply
  generalize x.run.run supply = outcome at hfirst ⊢
  obtain ⟨error | a, rest⟩ := outcome
  · have hsome : obstacles.head? = some error := hfirst
    refine ⟨fun ⟨_, _, h⟩ => (nomatch h), fun h => ?_⟩
    rw [h] at hsome
    exact nomatch hsome
  · exact ⟨fun _ => hfirst, fun _ => ⟨a, rest, rfl⟩⟩

lemma error_iff {x : ReadBuild α} {obstacles : List TokenError} (hx : StopsAtFirst x obstacles)
    (supply : Supply) (error : TokenError) :
    (∃ rest, x.run.run supply = (.error error, rest)) ↔ obstacles.head? = some error := by
  have hfirst := hx supply
  generalize x.run.run supply = outcome at hfirst ⊢
  obtain ⟨first | a, rest⟩ := outcome
  · have hsome : obstacles.head? = some first := hfirst
    rw [hsome]
    refine ⟨fun ⟨_, h⟩ => ?_, fun h => ⟨rest, ?_⟩⟩
    · rw [Except.error.inj (Prod.mk.inj h).1]
    · rw [Option.some.inj h]
  · obtain rfl : obstacles = [] := hfirst
    exact ⟨fun ⟨_, h⟩ => (nomatch h), fun h => nomatch h⟩

end StopsAtFirst

end ReadBuild

open ReadBuild (StopsAtFirst)

/-! ### What is in the way of a reader -/

/-- What keeps a token from being a name. -/
def Token.nameObstacles (name : Token) : List TokenError :=
  match name.name? with
  | .ok _ => []
  | .error error => [error]

mutual

/-- What keeps a token from being read, in the order in which a reader meets it. -/
def Token.obstacles : Token → List TokenError
  | .some content => content.obstacles
  | .wrapped content => [.notAValue (.wrapped content)]
  | .wideNatural n => [.notAValue (.wideNatural n)]
  | .bytes data => [.notAValue (.bytes data)]
  | .sequence items => itemObstacles items
  | .map members => memberObstacles members
  | .unit | .none | .boolean _ | .integer _ | .wideInteger _ | .number _ | .text _ => []
termination_by structural token => token

/-- What keeps several tokens from being read. -/
def itemObstacles : List Token → List TokenError
  | [] => []
  | item :: rest => item.obstacles ++ itemObstacles rest
termination_by structural items => items

/-- What keeps the members of a map from being read. -/
def memberObstacles : List (Token × Token) → List TokenError
  | [] => []
  | (name, content) :: rest => name.nameObstacles ++ (content.obstacles ++ memberObstacles rest)
termination_by structural members => members

end

lemma stopsAtFirst_name (name : Token) :
    StopsAtFirst (liftExcept name.name?) name.nameObstacles := by
  unfold Token.nameObstacles
  cases name.name? with
  | ok s => exact .pure s
  | error error => exact .throw error

mutual

/-- A token is read up to what is first in the way. -/
lemma Token.stopsAtFirst : (token : Token) →
    StopsAtFirst (token.toValue : ReadBuild (Value γ)) token.obstacles
  | .unit => .pure _
  | .none => .pure _
  | .some content => content.stopsAtFirst
  | .wrapped _ => .throw _
  | .boolean _ => .pure _
  | .integer _ => .pure _
  | .wideInteger _ => .pure _
  | .wideNatural _ => .throw _
  | .number _ => .pure _
  | .text _ => .pure _
  | .bytes _ => .throw _
  | .sequence items =>
    (stopsAtFirst_itemValues items).map_result fun elements =>
      (StopsAtFirst.lift (Object.array elements)).map_result fun _ => .pure _
  | .map members =>
    (stopsAtFirst_putMembers members Object.builder).map_result fun builder =>
      (StopsAtFirst.lift builder.build).map_result fun _ => .pure _
termination_by structural token => token

lemma stopsAtFirst_itemValues : (items : List Token) →
    StopsAtFirst (itemValues items : ReadBuild (List (Value γ))) (itemObstacles items)
  | [] => .pure _
  | item :: rest => item.stopsAtFirst.bind fun _ =>
      (stopsAtFirst_itemValues rest).map_result fun _ => .pure _
termination_by structural items => items

lemma stopsAtFirst_putMembers : (members : List (Token × Token)) → (builder : ObjectBuilder γ) →
    StopsAtFirst (putMembers members builder) (memberObstacles members)
  | [], _ => .pure _
  | (name, content) :: rest, builder => (stopsAtFirst_name name).bind fun key =>
      content.stopsAtFirst.bind fun value =>
        stopsAtFirst_putMembers rest (builder.property (.ofString key) value)
termination_by structural members => members

end

/-! ### Plain data -/

/-- A name that is a text. -/
def Delivery.IsName (name : Delivery) : Prop :=
  (∃ c, name = .scalar (.character c)) ∨ ∃ s, name = .scalar (.text s)

/-- Data without wrapped parts and without bytes, whose maps have texts for names. -/
inductive Delivery.Plain : Delivery → Prop
  | unit : Plain .unit
  | none : Plain .none
  | some {content : Delivery} : Plain content → Plain (.some content)
  | scalar {s : Scalar} : (∀ data, s ≠ .bytes data) → Plain (.scalar s)
  | sequence {items : List Delivery} : (∀ item ∈ items, Plain item) → Plain (.sequence items)
  | map {members : List (Delivery × Delivery)} :
    (∀ m ∈ members, m.1.IsName) → (∀ m ∈ members, Plain m.2) → Plain (.map members)

/-- The integer of a scalar that is an unsigned one of 128 bits. -/
def Scalar.wideNaturals : Scalar → List Nat
  | unsigned .w128 n => [n.toNat]
  | _ => []

mutual

/-- The unsigned integers of 128 bits in a piece of data, in order. -/
def Delivery.wideNaturals : Delivery → List Nat
  | .unit | .none => []
  | .some content => content.wideNaturals
  | .wrapped content => content.wideNaturals
  | .scalar s => s.wideNaturals
  | .sequence items => itemWideNaturals items
  | .map members => memberWideNaturals members
termination_by structural delivery => delivery

/-- The unsigned integers of 128 bits in several pieces of data. -/
def itemWideNaturals : List Delivery → List Nat
  | [] => []
  | item :: rest => item.wideNaturals ++ itemWideNaturals rest
termination_by structural items => items

/-- The unsigned integers of 128 bits in the members of a map. -/
def memberWideNaturals : List (Delivery × Delivery) → List Nat
  | [] => []
  | (name, content) :: rest =>
    name.wideNaturals ++ (content.wideNaturals ++ memberWideNaturals rest)
termination_by structural members => members

end

/-- The error of an unsigned integer of 128 bits. -/
def TokenError.ofWideNatural (n : Nat) : TokenError := .notAValue (.wideNatural n)

lemma Scalar.obstacles_token {s : Scalar} (h : ∀ data, s ≠ .bytes data) :
    s.token.obstacles = s.wideNaturals.map .ofWideNatural := by
  cases s with
  | boolean => rfl
  | signed width => cases width <;> rfl
  | unsigned width => cases width <;> rfl
  | single => rfl
  | double => rfl
  | character => rfl
  | text => rfl
  | bytes data => exact absurd rfl (h data)

namespace Delivery

lemma IsName.nameObstacles_token {name : Delivery} (h : name.IsName) :
    name.token.nameObstacles = [] := by
  obtain ⟨c, rfl⟩ | ⟨s, rfl⟩ := h
  · rfl
  · rfl

lemma IsName.wideNaturals {name : Delivery} (h : name.IsName) : name.wideNaturals = [] := by
  obtain ⟨c, rfl⟩ | ⟨s, rfl⟩ := h
  · rfl
  · rfl

/-- Nothing but unsigned integers of 128 bits is in the way of a reader. -/
def OnlyWide (d : Delivery) : Prop := d.token.obstacles = d.wideNaturals.map .ofWideNatural

lemma itemObstacles_of_onlyWide {items : List Delivery} (h : ∀ item ∈ items, item.OnlyWide) :
    itemObstacles (itemTokens items) = (itemWideNaturals items).map .ofWideNatural := by
  induction items with
  | nil => rfl
  | cons item rest ih =>
    obtain ⟨hitem, hrest⟩ := List.forall_mem_cons.1 h
    rw [itemTokens, itemObstacles, itemWideNaturals, List.map_append, hitem, ih hrest]

lemma memberObstacles_of_onlyWide {members : List (Delivery × Delivery)}
    (hnames : ∀ m ∈ members, m.1.IsName) (h : ∀ m ∈ members, m.2.OnlyWide) :
    memberObstacles (memberTokens members) = (memberWideNaturals members).map .ofWideNatural := by
  induction members with
  | nil => rfl
  | cons m rest ih =>
    obtain ⟨hname, hnames⟩ := List.forall_mem_cons.1 hnames
    obtain ⟨hcontent, hrest⟩ := List.forall_mem_cons.1 h
    rw [memberTokens, memberObstacles, memberWideNaturals, hname.nameObstacles_token,
      hname.wideNaturals, List.nil_append, List.nil_append, List.map_append, hcontent,
      ih hnames hrest]

/-- The induction is on the data; only the names of a map need that they are texts. -/
lemma Plain.onlyWide {d : Delivery} (h : d.Plain) : d.OnlyWide := by
  induction h with
  | unit => rfl
  | none => rfl
  | some _ ih => exact ih
  | scalar hs => exact Scalar.obstacles_token hs
  | sequence _ ih => exact itemObstacles_of_onlyWide ih
  | map hnames _ ih => exact memberObstacles_of_onlyWide hnames ih

end Delivery

/-- **Plain data is read up to its first unsigned integer of 128 bits.**  Whatever identities are
left, plain data has a value exactly if there is no such integer in it, and otherwise the first one
is the error. -/
theorem plain_delivery_stops_at_wide_natural {d : Delivery} (h : d.Plain) (supply : Supply) :
    ((∃ (v : Value γ) (rest : Supply), d.token.toValue.run.run supply = (.ok v, rest)) ↔
      d.wideNaturals = []) ∧
    ∀ error, (∃ rest, (d.token.toValue : ReadBuild (Value γ)).run.run supply =
      (.error error, rest)) ↔
        ∃ n, d.wideNaturals.head? = some n ∧ error = .notAValue (.wideNatural n) := by
  have hstops := d.token.stopsAtFirst (γ := γ)
  rw [h.onlyWide] at hstops
  refine ⟨(hstops.ok_iff supply).trans List.map_eq_nil_iff, fun error => ?_⟩
  rw [hstops.error_iff supply error, List.head?_map, Option.map_eq_some_iff]
  exact exists_congr fun n => and_congr_right fun _ => eq_comm

/-- Every kind of scalar is read at some depth, and an unsigned integer of 128 bits among them is
the error. -/
theorem plain_delivery_stops_at_wide_natural_of_every_kind :
    let scalars : List Delivery := [.scalar (.boolean true), .scalar (.signed .w8 (-1)),
      .scalar (.signed .w128 5), .scalar (.unsigned .w64 5), .scalar (.single 0),
      .scalar (.double .nan), .scalar (.character 'x'), .scalar (.text "x"), .some .none, .unit]
    let d (items : List Delivery) : Delivery := .map [(.scalar (.text "a"), .sequence items),
      (.scalar (.character 'k'), .sequence [.unit])]
    let wide : Delivery := .scalar (.unsigned .w128 5)
    (d scalars).Plain ∧ (d (scalars ++ [wide])).Plain ∧
      (∃ (v : Value Unit) (rest : Supply),
        (d scalars).token.toValue.run.run {} = (.ok v, rest)) ∧
      ∃ rest, ((d (scalars ++ [wide])).token.toValue : ReadBuild (Value Unit)).run.run {} =
        (.error (.notAValue (.wideNatural 5)), rest) := by
  intro scalars d wide
  have hwide : wide.Plain := .scalar nofun
  have hscalars : ∀ item ∈ scalars, item.Plain := by
    simp only [scalars, List.forall_mem_cons]
    exact ⟨.scalar nofun, .scalar nofun, .scalar nofun, .scalar nofun, .scalar nofun,
      .scalar nofun, .scalar nofun, .scalar nofun, .some .none, .unit, nofun⟩
  have hplain (items : List Delivery) (hitems : ∀ item ∈ items, item.Plain) : (d items).Plain := by
    refine .map ?_ ?_ <;> simp only [List.forall_mem_cons]
    · exact ⟨.inr ⟨_, rfl⟩, .inl ⟨_, rfl⟩, nofun⟩
    · exact ⟨.sequence hitems, .sequence (List.forall_mem_singleton.2 .unit), nofun⟩
  have hall := hplain scalars hscalars
  have hmore := hplain (scalars ++ [wide]) <|
    List.forall_mem_append.2 ⟨hscalars, List.forall_mem_singleton.2 hwide⟩
  refine ⟨hall, hmore, ?_, ?_⟩
  · exact (plain_delivery_stops_at_wide_natural hall {}).1.2 rfl
  · exact ((plain_delivery_stops_at_wide_natural hmore {}).2 _).2 ⟨5, rfl, rfl⟩

/-- An unsigned integer of 128 bits is refused although a signed one could hold it. -/
theorem small_wide_natural_is_refused :
    let wide (n : BitVec 128) : Delivery := .scalar (.unsigned .w128 n)
    (wide 5).Plain ∧ (∀ n ∈ (wide 5).wideNaturals, n < 2 ^ 127) ∧
      ¬ ∃ (v : Value Unit) (rest : Supply), (wide 5).token.toValue.run.run {} = (.ok v, rest) := by
  intro wide
  refine ⟨.scalar nofun, ?_, ?_⟩
  · exact List.forall_mem_singleton.2 (by decide)
  · rintro ⟨v, rest, hrun⟩
    exact nomatch (congrArg Prod.fst hrun)

end Narrowing
