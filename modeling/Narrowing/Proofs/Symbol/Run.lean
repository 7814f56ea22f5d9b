import Mathlib.Data.List.Nodup
import Mathlib.Tactic.Lemma
import Narrowing.Value.Builder
/-!
# Threads that make symbols

Any number of threads make symbols and copy them.  They share one thing, the count of identities,
and a thread that makes a new symbol looks at it once, when it draws the identity.  The symbol is
built later, and in the meantime other threads may draw and build symbols of their own, as may
calls that the thread makes before it has built this one.

So a run is a list of steps in the order in which they happen, each by one thread.  What a run
leaves keeps with every symbol where it comes from: from which drawing, or from which of the
symbols that every program knows.  Copies come from where the symbol that was copied comes from.

Main statement: after every run the identities are those of `Origin.identity`, and what comes from
one drawing is one symbol, with one description (`State.sound_of_run`).
-/

namespace Narrowing.Symbol

/-- Where a symbol comes from. -/
inductive Origin where
  /-- A drawing of the run.  Drawings are counted from zero. -/
  | drawing (number : Nat)
  | iterator
  | asyncIterator
deriving DecidableEq

/-- A symbol that a program holds, and where it comes from. -/
structure Held where
  symbol : Symbol
  origin : Origin
deriving DecidableEq

/-- A symbol that a thread has begun to make. -/
structure Draft where
  thread : Nat
  /-- Which drawing the identity comes from. -/
  number : Nat
  identity : UInt64
deriving DecidableEq

/-- What a thread does in one step. -/
inductive Action where
  /-- It begins to make a new symbol: the identity is drawn. -/
  | draw
  /-- It builds the symbol that it began last, with a description or without one. -/
  | finish (description : Option String)
  /-- It asks for the symbol of iteration. -/
  | iterator
  /-- It asks for the symbol of asynchronous iteration. -/
  | asyncIterator
  /-- It copies a symbol that is held by some thread. -/
  | clone (position : Nat)
deriving DecidableEq

/-- What a run leaves. -/
structure State where
  supply : Supply := {}
  /-- How many identities have been drawn. -/
  drawings : Nat := 0
  /-- The symbols that threads have begun to make, the one begun last first. -/
  drafts : List Draft := []
  /-- The symbols that have been handed out, in order. -/
  held : List Held := []

namespace State

/-- Hands out a symbol. -/
def hold (s : State) (x : Held) : State := { s with held := s.held ++ [x] }

/-- A thread draws an identity. -/
def draw (s : State) (thread : Nat) : State :=
  let drawn := Build.drawSymbol.run s.supply
  { s with
    supply := drawn.2
    drawings := s.drawings + 1
    drafts := ⟨thread, s.drawings, drawn.1⟩ :: s.drafts }

/-- A symbol is built from its draft and handed out. -/
def finish (s : State) (d : Draft) (description : Option String) : State :=
  { s with
    drafts := s.drafts.erase d
    held := s.held ++ [⟨⟨d.identity, description⟩, .drawing d.number⟩] }

/-- One step of a thread, if it is possible. -/
def step (s : State) (thread : Nat) : Action → Option State
  | .draw => some (s.draw thread)
  | .finish description =>
    (s.drafts.find? fun d => d.thread == thread).map fun d => s.finish d description
  | .iterator => some (s.hold ⟨.iterator, .iterator⟩)
  | .asyncIterator => some (s.hold ⟨.asyncIterator, .asyncIterator⟩)
  | .clone position => s.held[position]?.map s.hold

/-- What steps lead to, if they are possible. -/
def steps (s : State) : List (Nat × Action) → Option State
  | [] => some s
  | (thread, action) :: rest => (s.step thread action).bind fun s' => s'.steps rest

/-- What a run leaves, if its steps are possible. -/
def run (steps : List (Nat × Action)) : Option State := ({} : State).steps steps

end State

/-- Whether a step draws an identity. -/
def draws (t : Nat × Action) : Bool := t.2 == .draw

/-- The symbols that every program knows. -/
def wellKnown : List Held := [⟨.iterator, .iterator⟩, ⟨.asyncIterator, .asyncIterator⟩]

namespace State

variable {s s' : State} {thread : Nat} {action : Action}

/-- A thread that builds its symbol at once makes the one that a program of one thread makes. -/
theorem finish_draw (s : State) (thread : Nat) (description : Option String) :
    let made := (Build.freshSymbol description).run s.supply
    (s.draw thread).step thread (.finish description) =
      some { s with
        supply := made.2
        drawings := s.drawings + 1
        held := s.held ++ [⟨made.1, .drawing s.drawings⟩] } := by
  intro made
  have hfind : (s.draw thread).drafts.find? (fun d => d.thread == thread) =
      some ⟨thread, s.drawings, s.supply.symbol⟩ := List.find?_cons_of_pos BEq.rfl
  have hdrafts : (s.draw thread).drafts.erase ⟨thread, s.drawings, s.supply.symbol⟩ = s.drafts :=
    List.erase_cons_head _ _
  rw [step, hfind, Option.map_some, finish, hdrafts]
  rfl

/-- A step draws an identity, builds a symbol from a draft, or hands out one that is known. -/
theorem step_cases (h : s.step thread action = some s') :
    (action = .draw ∧ s' = s.draw thread) ∨
    (∃ d ∈ s.drafts, ∃ description, action = .finish description ∧ s' = s.finish d description) ∨
    (action ≠ .draw ∧ ∃ x, (x ∈ s.held ∨ x ∈ wellKnown) ∧ s' = s.hold x) := by
  cases action with
  | draw => exact .inl ⟨rfl, (Option.some.inj h).symm⟩
  | finish description =>
    obtain ⟨d, hd, rfl⟩ := Option.map_eq_some_iff.1 h
    exact .inr (.inl ⟨d, List.mem_of_find?_eq_some hd, description, rfl, rfl⟩)
  | iterator => exact .inr (.inr ⟨nofun, _, .inr (by decide), (Option.some.inj h).symm⟩)
  | asyncIterator => exact .inr (.inr ⟨nofun, _, .inr (by decide), (Option.some.inj h).symm⟩)
  | clone position =>
    obtain ⟨x, hx, rfl⟩ := Option.map_eq_some_iff.1 h
    exact .inr (.inr ⟨nofun, x, .inl (List.mem_of_getElem? hx), rfl⟩)

end State

/-! ### What holds after every run -/

/-- The identity of what comes from an origin.  Drawn identities follow each other from 16, and
after the last word comes zero. -/
def Origin.identity : Origin → UInt64
  | drawing number => 16 + UInt64.ofNat number
  | iterator => 1
  | asyncIterator => 2

/-- The symbol comes from where it is said to, and that is nowhere in the future. -/
inductive Held.Fits (drawings : Nat) : Held → Prop
  | drawing {number : Nat} (h : number < drawings) (description : Option String) :
      Fits drawings ⟨⟨(Origin.drawing number).identity, description⟩, .drawing number⟩
  | wellKnown {x : Held} (h : x ∈ wellKnown) : Fits drawings x

namespace State

/-- What every step preserves.  The count stands where the drawings have brought it, drafts and
symbols have the identities that were drawn for them, no two drafts come from one drawing, and
what comes from one drawing is either a draft or one symbol. -/
structure Sound (s : State) : Prop where
  next : s.supply.symbol = (Origin.drawing s.drawings).identity
  draft : ∀ d ∈ s.drafts, d.number < s.drawings ∧ d.identity = (Origin.drawing d.number).identity
  nodup : (s.drafts.map Draft.number).Nodup
  fits : ∀ x ∈ s.held, x.Fits s.drawings
  unfinished : ∀ d ∈ s.drafts, ∀ x ∈ s.held, x.origin ≠ .drawing d.number
  eq_of_origin : ∀ x ∈ s.held, ∀ y ∈ s.held, x.origin = y.origin → x = y

lemma sound_init : ({} : State).Sound where
  next := by decide
  draft := nofun
  nodup := List.nodup_nil
  fits := nofun
  unfinished := nofun
  eq_of_origin := nofun

end State

lemma origin_ne_of_wellKnown {x : Held} (h : x ∈ wellKnown) (number : Nat) :
    x.origin ≠ .drawing number := by
  have hall : ∀ y ∈ wellKnown, ∀ n, y.origin ≠ .drawing n := by simp [wellKnown]
  exact hall x h number

namespace Held.Fits

variable {x y : Held} {m n : Nat}

lemma mono (h : x.Fits m) (hle : m ≤ n) : x.Fits n := by
  cases h with
  | drawing hlt description => exact .drawing (Nat.lt_of_lt_of_le hlt hle) description
  | wellKnown hmem => exact .wellKnown hmem

lemma number_lt (h : x.Fits m) (hx : x.origin = .drawing n) : n < m := by
  cases h with
  | drawing hlt description => exact (Origin.drawing.inj hx) ▸ hlt
  | wellKnown hmem => exact absurd hx (origin_ne_of_wellKnown hmem n)

lemma identity_eq (h : x.Fits m) : x.symbol.identity = x.origin.identity := by
  cases h with
  | drawing hlt description => rfl
  | wellKnown hmem =>
    have hall : ∀ y ∈ Symbol.wellKnown, y.symbol.identity = y.origin.identity := by decide
    exact hall x hmem

lemma eq_of_wellKnown (h : x.Fits m) (hy : y ∈ Symbol.wellKnown) (heq : x.origin = y.origin) :
    x = y := by
  cases h with
  | drawing hlt description => exact absurd heq.symm (origin_ne_of_wellKnown hy _)
  | wellKnown hmem =>
    have hall : ∀ z ∈ Symbol.wellKnown, ∀ w ∈ Symbol.wellKnown, z.origin = w.origin → z = w := by
      decide
    exact hall x hmem y hy heq

end Held.Fits

/-- What comes from one place stays one symbol if what is added is the symbol from there. -/
lemma eq_of_origin_append {held : List Held} {x : Held}
    (h : ∀ y ∈ held, ∀ z ∈ held, y.origin = z.origin → y = z)
    (hx : ∀ y ∈ held, y.origin = x.origin → y = x) :
    ∀ y ∈ held ++ [x], ∀ z ∈ held ++ [x], y.origin = z.origin → y = z := by
  intro y hy z hz heq
  rcases List.mem_append.1 hy with hold | hnew <;> rcases List.mem_append.1 hz with hold' | hnew'
  · exact h y hold z hold' heq
  · obtain rfl := List.mem_singleton.1 hnew'
    exact hx y hold heq
  · obtain rfl := List.mem_singleton.1 hnew
    exact (hx z hold' heq.symm).symm
  · rw [List.mem_singleton.1 hnew, List.mem_singleton.1 hnew']

namespace State.Sound

variable {s s' : State} {thread : Nat} {action : Action}

lemma draw (h : s.Sound) (thread : Nat) : (s.draw thread).Sound where
  next := by
    show s.supply.symbol + 1 = 16 + UInt64.ofNat (s.drawings + 1)
    rw [h.next, Origin.identity, UInt64.ofNat_add, UInt64.add_assoc]
    rfl
  draft := by
    refine List.forall_mem_cons.2 ⟨⟨Nat.lt_succ_self _, h.next⟩, fun d hd => ?_⟩
    obtain ⟨hlt, hidentity⟩ := h.draft d hd
    exact ⟨Nat.lt_succ_of_lt hlt, hidentity⟩
  nodup := by
    refine List.nodup_cons.2 ⟨fun hmem => ?_, h.nodup⟩
    obtain ⟨d, hd, hnumber⟩ := List.mem_map.1 hmem
    exact Nat.lt_irrefl _ (hnumber ▸ (h.draft d hd).1)
  fits x hx := (h.fits x hx).mono (Nat.le_succ _)
  unfinished := by
    refine List.forall_mem_cons.2 ⟨fun x hx heq => ?_, h.unfinished⟩
    exact Nat.lt_irrefl _ ((h.fits x hx).number_lt heq)
  eq_of_origin := h.eq_of_origin

lemma finish (h : s.Sound) {d : Draft} (hd : d ∈ s.drafts) (description : Option String) :
    (s.finish d description).Sound where
  next := h.next
  draft e he := h.draft e (List.mem_of_mem_erase he)
  nodup := h.nodup.sublist (List.erase_sublist.map _)
  fits := by
    obtain ⟨hlt, hidentity⟩ := h.draft d hd
    refine List.forall_mem_append.2 ⟨h.fits, List.forall_mem_singleton.2 ?_⟩
    rw [hidentity]
    exact .drawing hlt description
  unfinished := by
    intro e he
    refine List.forall_mem_append.2 ⟨h.unfinished e (List.mem_of_mem_erase he),
      List.forall_mem_singleton.2 fun heq => ?_⟩
    -- another draft of the same drawing would be this one
    have hsame : d = e :=
      List.inj_on_of_nodup_map h.nodup hd (List.mem_of_mem_erase he) (Origin.drawing.inj heq)
    exact (List.Nodup.of_map _ h.nodup).not_mem_erase (hsame ▸ he)
  eq_of_origin := eq_of_origin_append h.eq_of_origin
    fun x hx heq => absurd heq (h.unfinished d hd x hx)

lemma hold (h : s.Sound) {x : Held} (hx : x ∈ s.held ∨ x ∈ wellKnown) : (s.hold x).Sound where
  next := h.next
  draft := h.draft
  nodup := h.nodup
  fits := List.forall_mem_append.2
    ⟨h.fits, List.forall_mem_singleton.2 (hx.elim (h.fits x) .wellKnown)⟩
  unfinished d hd := List.forall_mem_append.2
    ⟨h.unfinished d hd, List.forall_mem_singleton.2
      (hx.elim (h.unfinished d hd x) fun hx => origin_ne_of_wellKnown hx _)⟩
  eq_of_origin := by
    refine eq_of_origin_append h.eq_of_origin fun y hy heq => ?_
    rcases hx with hx | hx
    · exact h.eq_of_origin y hy x hx heq
    · exact (h.fits y hy).eq_of_wellKnown hx heq

/-- Whatever a thread does, what holds before holds after. -/
theorem step (h : s.Sound) (hstep : s.step thread action = some s') : s'.Sound := by
  rcases step_cases hstep with ⟨-, rfl⟩ | ⟨d, hd, description, -, rfl⟩ | ⟨-, x, hx, rfl⟩
  · exact h.draw thread
  · exact h.finish hd description
  · exact h.hold hx

theorem steps {run : List (Nat × Action)} (h : s.Sound) (hrun : s.steps run = some s') :
    s'.Sound := by
  induction run generalizing s with
  | nil => exact Option.some.inj hrun ▸ h
  | cons t rest ih =>
    obtain ⟨next, hstep, hrest⟩ := Option.bind_eq_some_iff.1 hrun
    exact ih (h.step hstep) hrest

end State.Sound

namespace State

variable {s s' : State}

lemma drawings_step {t : Nat × Action} (h : s.step t.1 t.2 = some s') :
    s'.drawings = s.drawings + [t].countP draws := by
  rcases step_cases h with ⟨ht, rfl⟩ | ⟨d, hd, description, ht, rfl⟩ | ⟨ht, x, hx, rfl⟩
  · simp [draws, ht, draw]
  · simp [draws, ht, finish]
  · simp [draws, ht, hold]

lemma drawings_steps {run : List (Nat × Action)} (h : s.steps run = some s') :
    s'.drawings = s.drawings + run.countP draws := by
  induction run generalizing s with
  | nil => exact congrArg drawings (Option.some.inj h).symm
  | cons t rest ih =>
    obtain ⟨next, hstep, hrest⟩ := Option.bind_eq_some_iff.1 h
    rw [ih hrest, drawings_step hstep, Nat.add_assoc, ← List.countP_append]
    rfl

theorem sound_of_run {steps : List (Nat × Action)} (h : run steps = some s) :
    s.Sound ∧ s.drawings = steps.countP draws :=
  ⟨sound_init.steps h, (drawings_steps h).trans (Nat.zero_add _)⟩

end State

end Narrowing.Symbol
