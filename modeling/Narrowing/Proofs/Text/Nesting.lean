import Mathlib.Tactic.Lemma
/-!
# Nested brackets

The round, square and curly brackets of a text are nested if it can be built from texts without
brackets by enclosing what is nested and by joining.  A text is read with a stack of the brackets
that are awaited to close those that are open, and if none is awaited at the end, the brackets
of the text are nested.

A piece of a text may be read by itself.  If its brackets close in it, it may stand anywhere and
changes nothing of what is awaited there.
-/

namespace Narrowing.Text

/-- The bracket that closes a bracket. -/
def closing? : Char → Option Char
  | '(' => some ')'
  | '[' => some ']'
  | '\x7b' => some '\x7d'
  | _ => none

/-- Whether the character is a bracket that closes another. -/
def isClosing (c : Char) : Bool := c == ')' || c == ']' || c == '\x7d'

/-- The brackets. -/
def brackets : List Char := ['(', ')', '[', ']', '\x7b', '\x7d']

lemma closing?_eq_none {c : Char} (h : c ∉ brackets) :
    closing? c = none ∧ isClosing c = false := by
  constructor
  · unfold closing?
    split
    all_goals first | rfl | exact absurd h (by decide)
  · simp only [brackets, List.mem_cons, List.not_mem_nil, or_false, not_or] at h
    simp [isClosing, h]

/-- The brackets of the characters are nested. -/
inductive Nested : List Char → Prop
  | nil : Nested []
  | other {c : Char} {rest : List Char} (hopen : closing? c = none) (hclose : isClosing c = false)
      (hrest : Nested rest) : Nested (c :: rest)
  | enclosed {c d : Char} {inside rest : List Char} (hopen : closing? c = some d)
      (hinside : Nested inside) (hrest : Nested rest) : Nested (c :: (inside ++ d :: rest))

/-- Reads the brackets of characters.  The brackets that are awaited are given and returned,
innermost first. -/
def close : List Char → List Char → Option (List Char)
  | awaited, [] => some awaited
  | awaited, c :: rest =>
    match closing? c with
    | some d => close (d :: awaited) rest
    | none =>
      if isClosing c then
        if awaited.head? = some c then close awaited.tail rest else none
      else close awaited rest

/-- What is nested is followed by the awaited brackets, each after what is nested. -/
def Closes : List Char → List Char → Prop
  | [], cs => Nested cs
  | d :: awaited, cs => ∃ inside rest, cs = inside ++ d :: rest ∧ Nested inside ∧ Closes awaited rest

/-- What has been read so far goes before what closes the rest. -/
lemma Closes.prepend (before : List Char) (hbefore : ∀ rest, Nested rest → Nested (before ++ rest))
    {awaited cs : List Char} (h : Closes awaited cs) : Closes awaited (before ++ cs) := by
  cases awaited with
  | nil => exact hbefore cs h
  | cons d awaited =>
    obtain ⟨inside, rest, rfl, hinside, hrest⟩ := h
    exact ⟨before ++ inside, rest, by simp, hbefore inside hinside, hrest⟩

/-- If no bracket is awaited at the end, each awaited bracket has been found. -/
lemma closes_of_close {awaited cs : List Char} (h : close awaited cs = some []) :
    Closes awaited cs := by
  induction cs generalizing awaited with
  | nil =>
    obtain rfl := Option.some.inj h
    exact Nested.nil
  | cons c cs ih =>
    rw [close] at h
    split at h
    · next d hopen =>
      obtain ⟨inside, rest, rfl, hinside, hrest⟩ := ih h
      -- the stack of the induction hypothesis has the new bracket on top: what closes it ends a group
      have hgroup := hrest.prepend (c :: (inside ++ [d])) fun rest hrest => by
        simpa using Nested.enclosed hopen hinside hrest
      simpa using hgroup
    · next hopen =>
      split at h
      · next hclose =>
        split at h
        · next hhead =>
          obtain ⟨rest, rfl⟩ := List.head?_eq_some_iff.1 hhead
          exact ⟨[], cs, rfl, .nil, ih h⟩
        · exact nomatch h
      · next hclose =>
        have hother : isClosing c = false := by simpa using hclose
        exact (ih h).prepend [c] fun rest hrest => .other hopen hother hrest

/-! ### Pieces of a text -/

lemma close_append (awaited s t : List Char) :
    close awaited (s ++ t) = (close awaited s).bind (close · t) := by
  induction s generalizing awaited with
  | nil => rfl
  | cons c s ih =>
    simp only [List.cons_append, close, ih]
    split
    · rfl
    · split
      · split <;> rfl
      · rfl

/-- What is awaited below plays no part. -/
lemma close_below {awaited left s : List Char} (h : close awaited s = some left)
    (below : List Char) : close (awaited ++ below) s = some (left ++ below) := by
  induction s generalizing awaited with
  | nil =>
    obtain rfl := Option.some.inj h
    rfl
  | cons c s ih =>
    rw [close] at h ⊢
    split at h
    · exact ih h
    · split at h
      · next hclosing =>
        rw [if_pos hclosing]
        split at h
        · next hhead =>
          obtain ⟨rest, rfl⟩ := List.head?_eq_some_iff.1 hhead
          simpa using ih h
        · exact nomatch h
      · next hother =>
        rw [if_neg hother]
        exact ih h

/-- Reading the text turns the brackets that are awaited before it into those awaited after it. -/
def Turns (awaited : List Char) (text : String) (left : List Char) : Prop :=
  close awaited text.toList = some left

namespace Turns

variable {awaited between left : List Char} {s t : String}

lemma ofList {cs : List Char} (h : close awaited cs = some left) :
    Turns awaited (String.ofList cs) left := by
  rwa [Turns, String.toList_ofList]

lemma append (hs : Turns awaited s between) (ht : Turns between t left) :
    Turns awaited (s ++ t) left := by
  rw [Turns, String.toList_append, close_append, hs]
  exact ht

end Turns

/-- Each bracket of the text is matched in it. -/
def Matched (text : String) : Prop := Turns [] text []

namespace Matched

variable {s t : String}

lemma nested (h : Matched s) : Nested s.toList := closes_of_close h

/-- A matched piece changes nothing of what is awaited where it stands. -/
lemma turns (h : Matched s) (awaited : List Char) : Turns awaited s awaited := close_below h awaited

lemma append (hs : Matched s) (ht : Matched t) : Matched (s ++ t) := Turns.append hs ht

/-- A text without brackets. -/
lemma of_not_mem (h : ∀ c ∈ brackets, c ∉ s.toList) : Matched s := by
  rw [Matched, Turns]
  generalize s.toList = cs at h ⊢
  induction cs with
  | nil => rfl
  | cons c cs ih =>
    obtain ⟨hopen, hclose⟩ := closing?_eq_none fun hc => h c hc List.mem_cons_self
    simp only [close, hopen, hclose, Bool.false_eq_true, if_false]
    exact ih fun d hd hmem => h d hd (List.mem_cons_of_mem c hmem)

end Matched

end Narrowing.Text
