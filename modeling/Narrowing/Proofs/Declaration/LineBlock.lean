import Mathlib.Algebra.GroupWithZero.Nat
import Narrowing.Proofs.Declaration.Lines
/-!
# Declarations as blocks of lines

A declaration is a block of lines that begins with an implementation and ends with a closing brace
at the start of a line.  What a declaration is for can be told from its first line alone: the
name of the trait and what follows it occur there and on no other line.
-/

namespace Narrowing.Declaration

open Text

/-- An implementation by its lines; the last of them is a closing brace. -/
structure LineBlock where
  head : String
  inner : List String
  starts : "impl<".toList <+: head.toList
  unbroken : '\n' ∉ head.toList
  isInner : ∀ line ∈ inner, IsInner line
  matched : MatchedLines (head :: (inner ++ ["\x7d"]))

namespace LineBlock

/-- All lines of a block. -/
def lines (block : LineBlock) : List String := block.head :: (block.inner ++ ["\x7d"])

/-- The text of a block. -/
def text (block : LineBlock) : String := unlines block.lines

end LineBlock

/-! ### Declarations for tuples -/

/-- The first line of a declaration for tuples. -/
def tupleHead (family : Family) (arity : Nat) : String :=
  "impl<" ++ commaSeparated (parameters arity) ++ "> " ++ family.traitName ++ " for (" ++
    commaSeparated (parameters arity) ++ ")"

/-- The lines of a declaration for tuples before its items. -/
def boundLines (arity : Nat) : List String :=
  "where" :: (List.range' 1 arity).map fun number => "    " ++ parameter number ++ ": Guard,"

/-- The lines of the items of a declaration for tuples. -/
def itemLines (family : Family) (arity : Nat) : List String :=
  ["    type " ++ family.targetName ++ "<'a> = " ++ (Target.ofFamily arity family).text ++ ";",
    "",
    "    #[inline]"] ++
  (methodLine family :: ((Body.ofFamily arity family).lines ++ ["    \x7d"]))

lemma isPart_blank : IsPart [] "" [] := .ofList (by decide) rfl

lemma isPart_openingBrace : IsPart [] "\x7b" ['\x7d'] := .ofList (by decide) rfl

lemma isPart_closingBrace : IsPart ['\x7d'] "\x7d" [] := .ofList (by decide) rfl

lemma isPart_parameters (arity : Nat) : IsPart [] (commaSeparated (parameters arity)) [] :=
  .commaSeparated .parameter _

lemma matched_tupleHead (family : Family) (arity : Nat) : Matched (tupleHead family arity) := by
  have hlist := (isPart_parameters arity).turns
  have himpl : Turns [] "impl<" [] := .ofList rfl
  have hname : Turns [] family.traitName [] := by cases family <;> exact .ofList rfl
  have hfor : Turns [] " for (" [')'] := .ofList rfl
  exact (((((himpl.append hlist).append (.ofList rfl)).append hname).append hfor).append
    (Matched.turns hlist _)).append (.ofList rfl)

lemma not_mem_tupleHead {c : Char} (hc : c ∈ ['\n', 'V']) (family : Family) (arity : Nat) :
    c ∉ (tupleHead family arity).toList := by
  have hlist : Lacks ['\n', 'V'] (commaSeparated (parameters arity)) :=
    (isPart_parameters arity).lacks.mono (by decide)
  have himpl : Lacks ['\n', 'V'] "impl<" := .ofList (by decide)
  have hname : Lacks ['\n', 'V'] family.traitName := by
    cases family <;> exact .ofList (by decide)
  have hhead : Lacks ['\n', 'V'] (tupleHead family arity) :=
    (((((himpl.append hlist).append (.ofList (by decide))).append hname).append
      (.ofList (by decide))).append hlist).append (.ofList (by decide))
  exact hhead c hc

lemma isRow_boundLines (arity : Nat) : IsRow (boundLines arity) :=
  (IsRow.map IsPart.boundLine _).cons_part (.ofList (by decide) rfl)

lemma isRow_itemLines (family : Family) (arity : Nat) : IsRow (itemLines family arity) := by
  have hinline : IsPart [] "    #[inline]" [] := .ofList (by decide) rfl
  have hitems := IsRow.nil.cons_part hinline |>.cons_part isPart_blank
    |>.cons_part (IsPart.typeLine family (Target.ofFamily arity family))
  exact hitems.append (.method family (.bodyLines _))

/-- The declaration for tuples of an arity. -/
def LineBlock.tuple (family : Family) (arity : Nat) : LineBlock where
  head := tupleHead family arity
  inner := boundLines arity ++ "\x7b" :: itemLines family arity
  starts := by
    simp only [tupleHead, String.toList_append, List.append_assoc]
    exact List.prefix_append _ _
  unbroken := not_mem_tupleHead (by decide) family arity
  isInner := List.forall_mem_append.2 ⟨(isRow_boundLines arity).inner,
    List.forall_mem_cons.2 ⟨isPart_openingBrace.isInner, (isRow_itemLines family arity).inner⟩⟩
  matched := by
    have hitems := (isRow_itemLines family arity).matched.braced isPart_openingBrace.turns
      isPart_closingBrace.turns
    have hbounds := (isRow_boundLines arity).matched.cons (matched_tupleHead family arity)
    simpa using hbounds.append hitems

@[simp]
lemma LineBlock.text_tuple (family : Family) (arity : Nat) :
    (tuple family arity).text = tupleDeclaration family arity := by
  simp [text, lines, tuple, tupleHead, boundLines, itemLines, tupleDeclaration, parameters,
    Function.comp_def]

/-! ### General declarations -/

/-- The first line of a general declaration. -/
def generalHead : Family → String
  | .or => "impl<G: Guard> AnyOf for Vec<G> \x7b"
  | .and => "impl<G: Guard> AllOf for Vec<G> \x7b"

/-- The type that a general declaration defines. -/
def generalType : Family → String
  | .or => "    type Union<'a> = G::Target<'a>;"
  | .and => "    type Intersection<'a> = Vec<G::Target<'a>>;"

/-- The lines of the body of a general declaration. -/
def generalBody : Family → List String
  | .or => [
      "        for guard in self \x7b",
      "            if let Some(it) = guard.narrow(value) \x7b",
      "                return Some(it);",
      "            \x7d",
      "        \x7d",
      "        None"]
  | .and => [
      "        let mut all = Vec::with_capacity(self.len());",
      "        for guard in self \x7b",
      "            all.push(guard.narrow(value)?);",
      "        \x7d",
      "        Some(all)"]

lemma isRow_generalType (family : Family) : IsRow [generalType family, ""] := by
  have hblank : IsRow [""] := IsRow.nil.cons_part isPart_blank
  cases family with
  | or => exact hblank.cons_part (.ofList (by decide) rfl)
  | and => exact hblank.cons (.ofList (by decide) (by decide) (by decide)) (.ofList rfl)

lemma isRow_generalBody (family : Family) : IsRow (generalBody family) := by
  have hfor : IsPart [] "        for guard in self \x7b" ['\x7d'] := .ofList (by decide) rfl
  have hclosing : IsInner "        \x7d" := .ofList (by decide) (by decide) (by decide)
  cases family with
  | or =>
    have hif : IsPart [] "            if let Some(it) = guard.narrow(value) \x7b" ['\x7d'] :=
      .ofList (by decide) rfl
    have hreturn : IsRow ["                return Some(it);"] :=
      IsRow.nil.cons_part (.ofList (by decide) rfl)
    have hnone : IsRow ["        None"] := IsRow.nil.cons_part (.ofList (by decide) rfl)
    have hreturned : IsInner "            \x7d" := .ofList (by decide) (by decide) (by decide)
    have htry := hreturn.braced hif.isInner hif.turns hreturned (.ofList rfl)
    exact (htry.braced hfor.isInner hfor.turns hclosing (.ofList rfl)).append hnone
  | and =>
    have hpush : IsRow ["            all.push(guard.narrow(value)?);"] :=
      IsRow.nil.cons_part (.ofList (by decide) rfl)
    have hall : IsRow ["        Some(all)"] := IsRow.nil.cons_part (.ofList (by decide) rfl)
    have hloop := hpush.braced hfor.isInner hfor.turns hclosing (.ofList rfl)
    exact (hloop.append hall).cons (.ofList (by decide) (by decide) (by decide)) (.ofList rfl)

/-- The general declaration of a family. -/
def LineBlock.general (family : Family) : LineBlock where
  head := generalHead family
  inner := [generalType family, ""] ++ (methodLine family :: (generalBody family ++ ["    \x7d"]))
  starts := by
    have himpl : "impl<".toList = ['i', 'm', 'p', 'l', '<'] := by rw [String.toList_ofList]
    rw [himpl]
    cases family <;> (simp only [generalHead]; rw [String.toList_ofList]; decide)
  unbroken := by
    cases family <;> (simp only [generalHead]; rw [String.toList_ofList]; decide)
  isInner := ((isRow_generalType family).append (.method family (isRow_generalBody family))).inner
  matched := by
    have hhead : Turns [] (generalHead family) ['\x7d'] := by cases family <;> exact .ofList rfl
    have hrow := (isRow_generalType family).append (.method family (isRow_generalBody family))
    exact hrow.matched.braced hhead isPart_closingBrace.turns

@[simp]
lemma LineBlock.text_general (family : Family) :
    (general family).text = generalDeclaration family := by
  cases family <;> rfl

/-! ### Marks -/

/-- What tells declarations apart. -/
inductive Mark where
  /-- What a declaration of a family for tuples has in its first line. -/
  | tuple (family : Family)
  /-- What the general declaration of a family has in its first line. -/
  | general (family : Family)
  /-- What every general declaration has in its first line. -/
  | list
deriving DecidableEq

namespace Mark

/-- The text of a mark. -/
def text : Mark → String
  | tuple .or => "AnyOf for ("
  | tuple .and => "AllOf for ("
  | general .or => "AnyOf for Vec<G>"
  | general .and => "AllOf for Vec<G>"
  | list => listMark

/-- The characters of a mark. -/
def characters : Mark → List Char
  | tuple .or => ['A', 'n', 'y', 'O', 'f', ' ', 'f', 'o', 'r', ' ', '(']
  | tuple .and => ['A', 'l', 'l', 'O', 'f', ' ', 'f', 'o', 'r', ' ', '(']
  | general .or => ['A', 'n', 'y', 'O', 'f', ' ', 'f', 'o', 'r', ' ', 'V', 'e', 'c', '<', 'G', '>']
  | general .and => ['A', 'l', 'l', 'O', 'f', ' ', 'f', 'o', 'r', ' ', 'V', 'e', 'c', '<', 'G', '>']
  | list => ['f', 'o', 'r', ' ', 'V', 'e', 'c', '<', 'G', '>']

variable {line : String}

lemma toList_text (mark : Mark) : mark.text.toList = mark.characters := by
  rcases mark with ⟨_ | _⟩ | ⟨_ | _⟩ | _ <;>
    (simp only [text, characters, listMark]; rw [String.toList_ofList])

lemma occurrences_eq (mark : Mark) (text : String) :
    occurrences mark.text text = countIn mark.characters text.toList := by
  rw [occurrences, toList_text]

/-- A line is counted by itself. -/
lemma occurrences_unlines (mark : Mark) (lines : List String) :
    occurrences mark.text (unlines lines) = (lines.map (occurrences mark.text)).sum := by
  have hne : mark.characters ≠ [] := by rcases mark with ⟨_ | _⟩ | ⟨_ | _⟩ | _ <;> decide
  have hbreak : '\n' ∉ mark.characters := by rcases mark with ⟨_ | _⟩ | ⟨_ | _⟩ | _ <;> decide
  induction lines with
  | nil =>
    rw [occurrences_eq, unlines, List.map_nil, String.join_nil, String.toList_empty]
    rcases mark with ⟨_ | _⟩ | ⟨_ | _⟩ | _ <;> rfl
  | cons line lines ih =>
    rw [occurrences_eq, toList_unlines_cons, countIn_append_cons hne hbreak, ← occurrences_eq,
      ← occurrences_eq, ih, List.map_cons, List.sum_cons]

/-- What lacks the letters of fixed text has no mark. -/
lemma occurrences_of_isPart (mark : Mark) {awaited left : List Char}
    (h : IsPart awaited line left) : occurrences mark.text line = 0 := by
  obtain ⟨c, hc, hmem⟩ : ∃ c ∈ fixedCharacters, c ∈ mark.characters := by
    rcases mark with ⟨_ | _⟩ | ⟨_ | _⟩ | _ <;>
      first | exact ⟨'A', by decide, by decide⟩ | exact ⟨'V', by decide, by decide⟩
  rw [occurrences_eq]
  exact countIn_eq_zero hmem (h.lacks c hc)

/-- The lines after the first have no mark. -/
lemma occurrences_of_isInner (mark : Mark) (h : IsInner line) :
    occurrences mark.text line = 0 := by
  by_cases hlist : mark = list
  · rw [hlist]
    exact h.unmarked
  -- every other mark has the name of a trait, and inner lines name no trait
  · have hmem : 'A' ∈ mark.characters := by
      rcases mark with ⟨_ | _⟩ | ⟨_ | _⟩ | _ <;> first | decide | exact absurd rfl hlist
    rw [occurrences_eq]
    exact countIn_eq_zero hmem (h.lacks 'A' (by decide))

lemma occurrences_block (mark : Mark) (block : LineBlock) :
    occurrences mark.text block.text = occurrences mark.text block.head := by
  have hinner : (block.inner.map (occurrences mark.text)).sum = 0 := by
    rw [List.sum_eq_zero_iff_forall_eq_nat, List.forall_mem_map]
    exact fun line hline => mark.occurrences_of_isInner (block.isInner line hline)
  simp [LineBlock.text, LineBlock.lines, occurrences_unlines, hinner,
    mark.occurrences_of_isPart isPart_closingBrace]

/-- The first line of a declaration for tuples has the mark of its family, and around it there is
no letter that a mark of a family begins with. -/
lemma toList_tupleHead (family : Family) (arity : Nat) :
    ∃ before after, 'A' ∉ before ∧ 'A' ∉ after ∧
      (tupleHead family arity).toList = before ++ ((tuple family).characters ++ after) := by
  have hlist := isPart_parameters arity
  have himpl : IsPart [] "impl<" [] := .ofList (by decide) rfl
  have hbefore := ((himpl.append hlist).append (t := "> ") (.ofList (by decide) rfl)).lacks
  have hafter := hlist.lacks.append (t := ")") (.ofList (by decide))
  have hmark : family.traitName ++ " for (" = (tuple family).text := by cases family <;> rfl
  refine ⟨_, _, hbefore 'A' (by decide), hafter 'A' (by decide), ?_⟩
  rw [← toList_text, ← hmark]
  simp [tupleHead]

/-- A declaration for tuples has the mark of its family once, and no other mark. -/
lemma occurrences_tuple (mark : Mark) (family : Family) (arity : Nat) :
    occurrences mark.text (tupleDeclaration family arity) =
      if mark = tuple family then 1 else 0 := by
  rw [← LineBlock.text_tuple, occurrences_block, occurrences_eq]
  show countIn mark.characters (tupleHead family arity).toList = _
  have hlist : 'V' ∉ (tupleHead family arity).toList := not_mem_tupleHead (by decide) family arity
  rcases mark with other | other | _
  · obtain ⟨before, after, hbefore, hafter, heq⟩ := toList_tupleHead family arity
    rw [heq]
    -- the mark can only begin at the one `A` of the line, where its second letter decides
    cases other <;> cases family <;>
      simp [characters, countIn_append_cons_of_not_mem, hbefore, hafter]
  · rw [if_neg nofun]
    exact countIn_eq_zero (by cases other <;> decide) hlist
  · rw [if_neg nofun]
    exact countIn_eq_zero (by decide) hlist

/-- A general declaration has the mark of its family once, and no mark of another. -/
lemma occurrences_general (mark : Mark) (family : Family) :
    occurrences mark.text (generalDeclaration family) =
      if mark = general family ∨ mark = list then 1 else 0 := by
  rw [← LineBlock.text_general, occurrences_block, occurrences_eq]
  show countIn _ (generalHead family).toList = _
  rcases mark with ⟨_ | _⟩ | ⟨_ | _⟩ | _ <;> cases family <;>
    (simp only [generalHead]; rw [String.toList_ofList]; decide)

end Mark

end Narrowing.Declaration
