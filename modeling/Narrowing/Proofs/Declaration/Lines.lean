import Narrowing.Proofs.Declaration.Lexeme
import Narrowing.Proofs.Text.Nesting
import Narrowing.Proofs.Text.Occurrence
/-!
# The lines of declarations

A declaration is written as lines, and most of what it says varies with the arity: the list of
parameters, the type of the result and the lines that try the members.  All that varies is made
of parts that hold no break between lines and none of the letters that the names of traits and
of the types of values begin with, and whose brackets are matched.  So the lines of a declaration
are told apart by their fixed text alone, whatever the arity.
-/

namespace Narrowing.Declaration

open Text

/-! ### Parts of lines -/

/-- The text has none of the characters. -/
def Lacks (characters : List Char) (text : String) : Prop := ∀ c ∈ characters, c ∉ text.toList

namespace Lacks

variable {characters : List Char} {s t : String}

lemma append (hs : Lacks characters s) (ht : Lacks characters t) : Lacks characters (s ++ t) := by
  intro c hc
  rw [String.toList_append, List.mem_append, not_or]
  exact ⟨hs c hc, ht c hc⟩

/-- What fixed text lacks is seen by a test that can be run. -/
lemma ofList {cs : List Char} (h : cs.all (! characters.contains ·)) :
    Lacks characters (String.ofList cs) := by
  intro c hc hmem
  rw [String.toList_ofList] at hmem
  simpa [hc] using List.all_eq_true.1 h c hmem

lemma mono {others : List Char} (h : Lacks others s) (hsubset : characters ⊆ others) :
    Lacks characters s :=
  fun c hc => h c (hsubset hc)

end Lacks

/-- What the parts of a declaration that vary do not have: a break between lines, and letters that
only fixed text has. -/
def fixedCharacters : List Char := ['\n', 'A', 'V']

/-- A part of a line without the characters of fixed text, with the brackets that are awaited
before it and after it. -/
structure IsPart (awaited : List Char) (text : String) (left : List Char) : Prop where
  lacks : Lacks fixedCharacters text
  turns : Turns awaited text left

namespace IsPart

variable {awaited between left : List Char} {s t : String}

lemma ofList {cs : List Char} (hlacks : cs.all (! fixedCharacters.contains ·))
    (hturns : close awaited cs = some left) : IsPart awaited (String.ofList cs) left :=
  ⟨.ofList hlacks, .ofList hturns⟩

lemma append (hs : IsPart awaited s between) (ht : IsPart between t left) :
    IsPart awaited (s ++ t) left :=
  ⟨hs.lacks.append ht.lacks, hs.turns.append ht.turns⟩

/-- A part whose brackets are matched may stand anywhere. -/
lemma anywhere (h : IsPart [] s []) : IsPart awaited s awaited := ⟨h.lacks, Matched.turns h.turns _⟩

lemma number (n : Nat) : IsPart [] (toString n) [] := by
  have hlacks {cs : List Char} (h : cs.all (! ·.isDigit)) : Lacks cs (toString n) := by
    intro c hc hmem
    simpa [isDigit_of_mem_toString hmem] using List.all_eq_true.1 h c hc
  exact ⟨hlacks (by decide), Matched.of_not_mem (hlacks (by decide))⟩

lemma parameter (number : Nat) : IsPart [] (parameter number) [] := by
  have hletter : IsPart [] "T" [] := ofList (by decide) rfl
  exact hletter.append (IsPart.number number)

lemma commaSeparated {α : Type} {text : α → String} (h : ∀ a, IsPart [] (text a) [])
    (items : List α) : IsPart [] (commaSeparated (items.map text)) [] := by
  match items with
  | [] => exact ofList (by decide) rfl
  | [a] => exact h a
  | a :: b :: rest =>
    have hcomma : IsPart [] ", " [] := ofList (by decide) rfl
    have hrest := commaSeparated h (b :: rest)
    simp only [List.map_cons] at hrest ⊢
    rw [Declaration.commaSeparated, String.intercalate_cons_cons]
    exact ((h a).append hcomma).append hrest

lemma memberTarget (number : Nat) : IsPart [] (memberTarget number) [] :=
  (parameter number).append (ofList (by decide) rfl)

lemma target (target : Target) : IsPart [] target.text [] := by
  induction target with
  | member number => exact memberTarget number
  | either left right ihleft ihright =>
    have hopen : IsPart [] "Either<" [] := ofList (by decide) rfl
    have hcomma : IsPart [] ", " [] := ofList (by decide) rfl
    have hclose : IsPart [] ">" [] := ofList (by decide) rfl
    exact (((hopen.append ihleft).append hcomma).append ihright).append hclose
  | tuple numbers =>
    have hopen : IsPart [] "(" [')'] := ofList (by decide) rfl
    have hclose : IsPart [')'] ")" [] := ofList (by decide) rfl
    exact (hopen.append (commaSeparated memberTarget numbers).anywhere).append hclose

lemma injection (e : Injection) : IsPart [] e.text [] := by
  have hclose : IsPart [')'] ")" [] := ofList (by decide) rfl
  induction e with
  | view => exact ofList (by decide) rfl
  | left of ih =>
    have hopen : IsPart [] "Either::Left(" [')'] := ofList (by decide) rfl
    exact (hopen.append ih.anywhere).append hclose
  | right of ih =>
    have hopen : IsPart [] "Either::Right(" [')'] := ofList (by decide) rfl
    exact (hopen.append ih.anywhere).append hclose

lemma narrowCall (position : Nat) : IsPart [] (narrowCall position) [] := by
  have hself : IsPart [] "self." [] := ofList (by decide) rfl
  exact (hself.append (number position)).append (ofList (by decide) rfl)

/-! Whole lines -/

lemma boundLine (number : Nat) :
    IsPart [] ("    " ++ Declaration.parameter number ++ ": Guard,") [] := by
  have hindent : IsPart [] "    " [] := ofList (by decide) rfl
  exact (hindent.append (parameter number)).append (ofList (by decide) rfl)

lemma typeLine (family : Family) (target : Target) :
    IsPart [] ("    type " ++ family.targetName ++ "<'a> = " ++ target.text ++ ";") [] := by
  have htype : IsPart [] "    type " [] := ofList (by decide) rfl
  have hname : IsPart [] family.targetName [] := by
    cases family <;> exact ofList (by decide) rfl
  have hequals : IsPart [] "<'a> = " [] := ofList (by decide) rfl
  exact (((htype.append hname).append hequals).append (IsPart.target target)).append
    (ofList (by decide) rfl)

lemma tryLine (position : Nat) :
    IsPart [] ("        if let Some(it) = " ++ Declaration.narrowCall position ++ " \x7b")
      ['\x7d'] := by
  have hif : IsPart [] "        if let Some(it) = " [] := ofList (by decide) rfl
  exact (hif.append (narrowCall position)).append (ofList (by decide) rfl)

lemma returnLine (e : Injection) :
    IsPart [] ("            return Some(" ++ e.text ++ ");") [] := by
  have hopen : IsPart [] "            return Some(" [')'] := ofList (by decide) rfl
  exact (hopen.append (injection e).anywhere).append (ofList (by decide) rfl)

lemma lastLine (position : Nat) (e : Injection) :
    IsPart [] ("        " ++ Declaration.narrowCall position ++ ".map(|it| " ++ e.text ++ ")")
      [] := by
  have hindent : IsPart [] "        " [] := ofList (by decide) rfl
  have hmap : IsPart [] ".map(|it| " [')'] := ofList (by decide) rfl
  exact (((hindent.append (narrowCall position)).append hmap).append (injection e).anywhere).append
    (ofList (by decide) rfl)

lemma allLine (positions : List Nat) :
    IsPart []
      ("        Some((" ++
        Declaration.commaSeparated (positions.map fun i => Declaration.narrowCall i ++ "?") ++
        "))") [] := by
  have hopen : IsPart [] "        Some((" [')', ')'] := ofList (by decide) rfl
  have hmark : IsPart [] "?" [] := ofList (by decide) rfl
  have hmembers := commaSeparated (fun i => (narrowCall i).append hmark) positions
  exact (hopen.append hmembers.anywhere).append (ofList (by decide) rfl)

end IsPart

/-! ### Lines between the first and the last -/

/-- What a general declaration has in its first line. -/
def listMark : String := "for Vec<G>"

lemma toList_listMark : listMark.toList = ['f', 'o', 'r', ' ', 'V', 'e', 'c', '<', 'G', '>'] := by
  rw [listMark, String.toList_ofList]

/-- A line of a declaration between the first and the last. -/
structure IsInner (line : String) : Prop where
  lacks : Lacks ['\n', 'A'] line
  unmarked : occurrences listMark line = 0
  /-- It is not the last line. -/
  inside : line ≠ "\x7d"

namespace IsInner

variable {line : String} {left : List Char}

lemma ofList {cs : List Char} (hlacks : cs.all (! ['\n', 'A'].contains ·))
    (hmark : countIn ['f', 'o', 'r', ' ', 'V', 'e', 'c', '<', 'G', '>'] cs = 0)
    (hinside : cs ≠ ['\x7d']) : IsInner (String.ofList cs) := by
  refine ⟨.ofList hlacks, ?_, fun h => hinside (String.ofList_injective h)⟩
  rwa [occurrences, toList_listMark, String.toList_ofList]

/-- No line that may come first in a text is the last line. -/
lemma ne_of_turns (h : Turns [] line left) : line ≠ "\x7d" := by
  rintro rfl
  rw [Turns, String.toList_ofList] at h
  exact absurd h (by simp [close, closing?, isClosing])

/-- What lacks a character of the mark does not have the mark. -/
lemma of_lacks {c : Char} (hc : c ∈ listMark.toList) (hlacks : Lacks ['\n', 'A', c] line)
    (hturns : Turns [] line left) : IsInner line where
  lacks := hlacks.mono (List.subset_append_left ['\n', 'A'] [c])
  unmarked := countIn_eq_zero hc (hlacks c (by simp))
  inside := ne_of_turns hturns

end IsInner

lemma IsPart.isInner {line : String} {left : List Char} (h : IsPart [] line left) :
    IsInner line := by
  refine .of_lacks ?_ h.lacks h.turns
  rw [toList_listMark]
  decide

lemma turns_methodLine (family : Family) : Turns [] (methodLine family) ['\x7d'] := by
  have hfn : Turns [] "    fn " [] := .ofList rfl
  have hmethod : Turns [] family.methodName [] := by cases family <;> exact .ofList rfl
  have hname : Turns [] family.targetName [] := by cases family <;> exact .ofList rfl
  have harguments : Turns [] "<'a>(&self, value: &'a Value) -> Option<Self::" [] := .ofList rfl
  exact (((hfn.append hmethod).append harguments).append hname).append (.ofList rfl)

lemma IsInner.methodLine (family : Family) : IsInner (methodLine family) := by
  have hmark : 'G' ∈ listMark.toList := by
    rw [toList_listMark]
    decide
  have hmethod : Lacks ['\n', 'A', 'G'] family.methodName := by
    cases family <;> exact .ofList (by decide)
  have hname : Lacks ['\n', 'A', 'G'] family.targetName := by
    cases family <;> exact .ofList (by decide)
  have hfn : Lacks ['\n', 'A', 'G'] "    fn " := .ofList (by decide)
  exact of_lacks hmark ((((hfn.append hmethod).append (.ofList (by decide))).append hname).append
    (.ofList (by decide))) (turns_methodLine family)

/-! ### Rows of lines -/

lemma toList_unlines_cons (line : String) (lines : List String) :
    (unlines (line :: lines)).toList = line.toList ++ '\n' :: (unlines lines).toList := by
  simp [unlines_cons]

/-- Each bracket of the lines is matched in them. -/
def MatchedLines (lines : List String) : Prop := Matched (unlines lines)

namespace MatchedLines

variable {line opening closing : String} {lines others : List String}

lemma turns_line {awaited left : List Char} (h : Turns awaited line left) :
    Turns awaited (line ++ "\n") left := by
  have hbreak : Matched "\n" := .ofList rfl
  exact h.append (hbreak.turns left)

lemma nil : MatchedLines [] := Turns.ofList rfl

lemma cons (hline : Matched line) (h : MatchedLines lines) : MatchedLines (line :: lines) := by
  rw [MatchedLines, unlines_cons]
  exact (turns_line hline).append h

lemma append (h : MatchedLines lines) (hothers : MatchedLines others) :
    MatchedLines (lines ++ others) := by
  rw [MatchedLines, unlines_append]
  exact Matched.append h hothers

/-- Lines between one that opens a brace and one that closes it. -/
lemma braced (hopening : Turns [] opening ['\x7d']) (h : MatchedLines lines)
    (hclosing : Turns ['\x7d'] closing []) : MatchedLines (opening :: (lines ++ [closing])) := by
  rw [MatchedLines, unlines_cons, unlines_append, unlines_cons]
  exact (turns_line hopening).append ((Matched.turns h _).append
    ((turns_line hclosing).append nil))

end MatchedLines

/-- Lines of a declaration between the first and the last, with all brackets matched in them. -/
structure IsRow (lines : List String) : Prop where
  inner : ∀ line ∈ lines, IsInner line
  matched : MatchedLines lines

namespace IsRow

variable {line opening closing : String} {lines others : List String}

lemma nil : IsRow [] := ⟨nofun, .nil⟩

lemma cons (hinner : IsInner line) (hmatched : Matched line) (h : IsRow lines) :
    IsRow (line :: lines) :=
  ⟨List.forall_mem_cons.2 ⟨hinner, h.inner⟩, .cons hmatched h.matched⟩

lemma cons_part (hline : IsPart [] line []) (h : IsRow lines) : IsRow (line :: lines) :=
  h.cons hline.isInner hline.turns

lemma append (h : IsRow lines) (hothers : IsRow others) : IsRow (lines ++ others) :=
  ⟨List.forall_mem_append.2 ⟨h.inner, hothers.inner⟩, h.matched.append hothers.matched⟩

lemma braced (hopening : IsInner opening) (hopens : Turns [] opening ['\x7d']) (h : IsRow lines)
    (hclosing : IsInner closing) (hcloses : Turns ['\x7d'] closing []) :
    IsRow (opening :: (lines ++ [closing])) where
  inner := List.forall_mem_cons.2
    ⟨hopening, List.forall_mem_append.2 ⟨h.inner, List.forall_mem_singleton.2 hclosing⟩⟩
  matched := .braced hopens h.matched hcloses

lemma map {α : Type} {line : α → String} (h : ∀ a, IsPart [] (line a) []) (items : List α) :
    IsRow (items.map line) := by
  induction items with
  | nil => exact nil
  | cons a items ih => exact ih.cons_part (h a)

lemma flatMap {α : Type} {lines : α → List String} (h : ∀ a, IsRow (lines a)) (items : List α) :
    IsRow (items.flatMap lines) := by
  induction items with
  | nil => exact nil
  | cons a items ih => exact (h a).append ih

lemma attemptLines (attempt : Nat × Injection) : IsRow (attemptLines attempt) := by
  have htry := IsPart.tryLine attempt.1
  have hclosing : IsInner "        \x7d" := .ofList (by decide) (by decide) (by decide)
  exact braced htry.isInner htry.turns (nil.cons_part (IsPart.returnLine attempt.2)) hclosing
    (.ofList rfl)

lemma bodyLines (body : Body) : IsRow body.lines := by
  cases body with
  | firstOf attempts last =>
    exact (flatMap attemptLines attempts).append (nil.cons_part (IsPart.lastLine last.1 last.2))
  | allOf positions => exact nil.cons_part (IsPart.allLine positions)

/-- A method, from its head to its closing brace. -/
lemma method (family : Family) (h : IsRow lines) :
    IsRow (methodLine family :: (lines ++ ["    \x7d"])) :=
  braced (.methodLine family) (turns_methodLine family) h
    (.ofList (by decide) (by decide) (by decide)) (.ofList rfl)

end IsRow

end Narrowing.Declaration
