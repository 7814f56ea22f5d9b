import Narrowing.Declaration.Text
import Narrowing.Proofs.Key.Naming
/-!
# The lexemes of declarations

To read the text of a declaration is first to cut it into lexemes, each as long as it can be.
A text is written by joining pieces, and a piece is read by itself if no lexeme reaches over
its end.  That is so for a piece that ends in a bracket, a mark or a blank (`Spells`), and for
a piece that ends in a word if what comes next does not continue the word (`SpellsWord`).
-/

namespace Narrowing.Declaration

/-! ### Lexemes -/

/-- The brackets that enclose a part of a declaration.  Nothing is compared in one, so that
angles always enclose. -/
inductive Bracket where
  | round | square | angle | brace
deriving DecidableEq

/-- A lexeme that neither encloses nor separates. -/
inductive Atom where
  /-- A name, a keyword or a number. -/
  | word (text : String)
  /-- A name after an apostrophe. -/
  | lifetime (name : String)
  /-- Two colons. -/
  | path
  /-- The arrow before the type of a result. -/
  | arrow
  /-- Any other character. -/
  | mark (c : Char)
deriving DecidableEq

/-- A smallest meaningful part of a text. -/
inductive Lexeme where
  | atom (a : Atom)
  | opening (b : Bracket)
  | closing (b : Bracket)
  | comma
deriving DecidableEq

/-- Whether the character belongs to words. -/
def inWord (c : Char) : Bool := c.isAlphanum || c == '_'

namespace Lexeme

/-- The longer lexeme that a character makes of a lexeme, if it does. -/
def extend : Lexeme → Char → Option Lexeme
  | atom (.word text), c => if inWord c then some (atom (.word (text.push c))) else none
  | atom (.lifetime name), c => if inWord c then some (atom (.lifetime (name.push c))) else none
  | atom (.mark ':'), ':' => some (atom .path)
  | atom (.mark '-'), '>' => some (atom .arrow)
  | _, _ => none

/-- The lexeme that starts with a character.  A blank starts none. -/
def ofChar : Char → Option Lexeme
  | ' ' => none
  | '\n' => none
  | '(' => some (opening .round)
  | ')' => some (closing .round)
  | '[' => some (opening .square)
  | ']' => some (closing .square)
  | '<' => some (opening .angle)
  | '>' => some (closing .angle)
  | '\x7b' => some (opening .brace)
  | '\x7d' => some (closing .brace)
  | ',' => some comma
  | '\x27' => some (atom (.lifetime ""))
  | c => some (atom (if inWord c then .word (String.singleton c) else .mark c))

/-- The lexemes of a text, where a beginning of the first one has been read. -/
def scan : Option Lexeme → List Char → List Lexeme
  | begun, [] => begun.toList
  | begun, c :: rest =>
    match begun.bind (extend · c) with
    | some longer => scan (some longer) rest
    | none => begun.toList ++ scan (ofChar c) rest

end Lexeme

/-- The lexemes of a text. -/
def lexemes (text : String) : List Lexeme := Lexeme.scan none text.toList

/-! ### Pieces of a text -/

open Lexeme (scan)

/-- The text reads as these lexemes, whatever follows. -/
def Spells (text : String) (ls : List Lexeme) : Prop :=
  ∀ rest, scan none (text.toList ++ rest) = ls ++ scan none rest

/-- The text reads as these lexemes if what follows does not continue a word. -/
def SpellsWord (text : String) (ls : List Lexeme) : Prop :=
  ∀ c rest, inWord c = false →
    scan none (text.toList ++ c :: rest) = ls ++ scan none (c :: rest)

/-- The text starts with a character that does not continue a word. -/
def Apart (text : String) : Prop :=
  ∃ c rest, text.toList = c :: rest ∧ inWord c = false

/-- A lexeme that no character extends is complete before any text. -/
lemma scan_of_complete {l : Lexeme} (h : ∀ c, l.extend c = none) (rest : List Char) :
    scan (some l) rest = l :: scan none rest := by
  cases rest with
  | nil => rfl
  | cons c rest => simp [scan, h]

/-- How a given piece is read is computed, down to its last lexeme. -/
lemma spells_of_scan {text : String} {ls : List Lexeme}
    (h : ∀ rest, scan none (text.toList ++ rest) = ls.dropLast ++ scan ls.getLast? rest)
    (hlast : ∀ c, ls.getLast?.bind (·.extend c) = none) : Spells text ls := by
  intro rest
  rw [h]
  cases hls : ls.getLast? with
  | none =>
    rw [List.getLast?_eq_none_iff] at hls
    rw [hls, List.dropLast_nil]
  | some l =>
    rw [hls] at hlast
    rw [scan_of_complete hlast, List.append_cons, List.dropLast_append_getLast? l hls]

namespace Spells

variable {s t : String} {ls ms : List Lexeme}

lemma lexemes_eq (h : Spells s ls) : lexemes s = ls := by
  have hscan := h []
  rwa [List.append_nil, scan, Option.toList_none, List.append_nil] at hscan

lemma spellsWord (h : Spells s ls) : SpellsWord s ls := fun _ _ _ => h _

lemma append (hs : Spells s ls) (ht : Spells t ms) : Spells (s ++ t) (ls ++ ms) := by
  intro rest
  rw [String.toList_append, List.append_assoc, hs, ht, List.append_assoc]

lemma append_word (hs : Spells s ls) (ht : SpellsWord t ms) :
    SpellsWord (s ++ t) (ls ++ ms) := by
  intro c rest hc
  rw [String.toList_append, List.append_assoc, hs, ht c rest hc, List.append_assoc]

end Spells

namespace SpellsWord

variable {s t : String} {ls ms : List Lexeme}

lemma append (hs : SpellsWord s ls) (ht : Spells t ms) (h : Apart t) :
    Spells (s ++ t) (ls ++ ms) := by
  intro rest
  obtain ⟨c, cs, hc, hapart⟩ := h
  rw [String.toList_append, List.append_assoc, hc, List.cons_append, hs c _ hapart,
    ← List.cons_append, ← hc, ht, List.append_assoc]

end SpellsWord

/-! ### Words -/

lemma ofChar_of_inWord {c : Char} (h : inWord c = true) :
    Lexeme.ofChar c = some (.atom (.word (String.singleton c))) := by
  unfold Lexeme.ofChar
  split
  -- no character that has a lexeme of its own belongs to words
  all_goals first | exact absurd h (by decide) | rw [if_pos h]

lemma scan_word (text : String) {w : List Char} (hw : ∀ c ∈ w, inWord c = true)
    (rest : List Char) :
    scan (some (.atom (.word text))) (w ++ rest) =
      scan (some (.atom (.word (text ++ String.ofList w)))) rest := by
  induction w generalizing text with
  | nil => simp
  | cons c w ih =>
    obtain ⟨hc, hrest⟩ := List.forall_mem_cons.1 hw
    have htext : text.push c ++ String.ofList w = text ++ String.ofList (c :: w) := by
      simp [← String.toList_inj]
    simp [scan, Lexeme.extend, hc, ih _ hrest, htext]

lemma spellsWord_of_inWord {w : String} (hne : w ≠ "") (hw : w.toList.all inWord = true) :
    SpellsWord w [.atom (.word w)] := by
  intro d rest hd
  cases hchars : w.toList with
  | nil => exact absurd (String.toList_eq_nil_iff.1 hchars) hne
  | cons c cs =>
    rw [hchars, List.all_eq_true] at hw
    obtain ⟨hc, hcs⟩ := List.forall_mem_cons.1 hw
    have hword : String.singleton c ++ String.ofList cs = w := by
      rw [← String.toList_inj, hchars]
      simp
    have hstart : scan none (c :: (cs ++ d :: rest)) =
        scan (some (.atom (.word (String.singleton c)))) (cs ++ d :: rest) := by
      simp [scan, ofChar_of_inWord hc]
    rw [List.cons_append, hstart, scan_word _ hcs, hword]
    simp [scan, Lexeme.extend, hd]

lemma isDigit_of_mem_toString {n : Nat} {c : Char} (h : c ∈ (toString n).toList) :
    c.isDigit = true := by
  rw [Key.toList_toString] at h
  exact Nat.isDigit_of_mem_toDigits (by decide) (by decide) h

lemma inWord_of_mem_toString {n : Nat} {c : Char} (h : c ∈ (toString n).toList) :
    inWord c = true := by
  simp [inWord, Char.isAlphanum, isDigit_of_mem_toString h]

lemma spellsWord_toString (n : Nat) : SpellsWord (toString n) [.atom (.word (toString n))] := by
  refine spellsWord_of_inWord ?_ (List.all_eq_true.2 fun c => inWord_of_mem_toString)
  rw [← String.toList_inj.ne, Key.toList_toString]
  exact Nat.toDigits_ne_nil

lemma spellsWord_parameter (n : Nat) : SpellsWord (parameter n) [.atom (.word (parameter n))] := by
  have hchars : (parameter n).toList = 'T' :: (toString n).toList := by
    rw [parameter, String.toList_append]
    rfl
  refine spellsWord_of_inWord ?_ ?_
  · rw [← String.toList_inj.ne, hchars]
    exact List.cons_ne_nil _ _
  · rw [hchars, List.all_eq_true]
    exact List.forall_mem_cons.2 ⟨rfl, fun c => inWord_of_mem_toString⟩

/-! ### Lines -/

lemma unlines_cons (line : String) (lines : List String) :
    unlines (line :: lines) = line ++ "\n" ++ unlines lines := by
  rw [unlines, List.map_cons, String.join_cons, unlines]

lemma unlines_append (s t : List String) : unlines (s ++ t) = unlines s ++ unlines t := by
  rw [unlines, List.map_append, String.join_append, unlines, unlines]

/-- The lines read as these lexemes, whatever follows. -/
def SpellsLines (lines : List String) (ls : List Lexeme) : Prop := Spells (unlines lines) ls

namespace SpellsLines

variable {line : String} {lines rest : List String} {ls ms : List Lexeme}

lemma nil : SpellsLines [] [] := fun _ => rfl

lemma cons (hline : SpellsWord line ls) (hrest : SpellsLines rest ms) :
    SpellsLines (line :: rest) (ls ++ ms) := by
  have hend : Spells "\n" [] := fun _ => rfl
  have htext := (hline.append hend ⟨_, _, rfl, rfl⟩).append hrest
  rw [List.append_nil] at htext
  rw [SpellsLines, unlines_cons]
  exact htext

lemma append (hlines : SpellsLines lines ls) (hrest : SpellsLines rest ms) :
    SpellsLines (lines ++ rest) (ls ++ ms) := by
  rw [SpellsLines, unlines_append]
  exact Spells.append hlines hrest

lemma flatMap {α : Type} {lines : α → List String} {ls : α → List Lexeme}
    (h : ∀ a, SpellsLines (lines a) (ls a)) (items : List α) :
    SpellsLines (items.flatMap lines) (items.flatMap ls) := by
  induction items with
  | nil => exact nil
  | cons a items ih => exact (h a).append ih

lemma map {α : Type} {line : α → String} {ls : α → List Lexeme}
    (h : ∀ a, SpellsWord (line a) (ls a)) (items : List α) :
    SpellsLines (items.map line) (items.flatMap ls) := by
  induction items with
  | nil => exact nil
  | cons a items ih => exact cons (h a) ih

end SpellsLines

end Narrowing.Declaration
