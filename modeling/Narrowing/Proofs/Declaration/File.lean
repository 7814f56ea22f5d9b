import Narrowing.Proofs.Declaration.LineBlock
import Narrowing.Proofs.Declaration.Implementation
/-!
# The file of declarations

The file is read back by its lines: an implementation is found from a line that begins one to
the next closing brace at the start of a line.  What is found is what was written, and nothing
else is in the file but its first line and the blank lines before the implementations.
-/

namespace Narrowing.Declaration

open Text

/-! ### Reading a file -/

/-- The lines of a text; what follows the last break is one, too. -/
def linesOf (text : String) : List String := (text.toList.splitOn '\n').map String.ofList

/-- The lines of each implementation, from a line that begins one to a closing brace at the start
of a line.  If some lines of one have been read, these are given. -/
def blocks : Option (List String) → List String → List (List String)
  | _, [] => []
  | none, line :: rest =>
    if "impl<".toList.isPrefixOf line.toList then blocks (some [line]) rest else blocks none rest
  | some read, line :: rest =>
    if line = "\x7d" then (read ++ [line]) :: blocks none rest
    else blocks (some (read ++ [line])) rest

/-- The implementations in a text, in their order. -/
def implementations (text : String) : List String := (blocks none (linesOf text)).map unlines

/-- The implementations in a text that have the mark, in their order. -/
def marked (mark : Mark) (text : String) : List String :=
  (implementations text).filter fun declaration => 0 < occurrences mark.text declaration

lemma linesOf_unlines {lines : List String} (h : ∀ line ∈ lines, '\n' ∉ line.toList) :
    linesOf (unlines lines) = lines ++ [""] := by
  induction lines with
  | nil => rfl
  | cons line lines ih =>
    obtain ⟨hline, hlines⟩ := List.forall_mem_cons.1 h
    rw [linesOf, toList_unlines_cons, List.splitOn_append_cons_self_of_not_mem hline, List.map_cons,
      String.ofList_toList, ← linesOf, ih hlines, List.cons_append]

lemma blocks_some {inner : List String} (h : ∀ line ∈ inner, line ≠ "\x7d")
    (read rest : List String) :
    blocks (some read) (inner ++ "\x7d" :: rest) =
      (read ++ (inner ++ ["\x7d"])) :: blocks none rest := by
  induction inner generalizing read with
  | nil => simp [blocks]
  | cons line inner ih =>
    obtain ⟨hline, hinner⟩ := List.forall_mem_cons.1 h
    rw [List.cons_append, blocks, if_neg hline, ih hinner]
    simp

/-- A block is found as a whole. -/
lemma blocks_block (block : LineBlock) (rest : List String) :
    blocks none (block.lines ++ rest) = block.lines :: blocks none rest := by
  have hinner := blocks_some (fun line hline => (block.isInner line hline).inside) [block.head] rest
  have hlines : block.lines ++ rest = block.head :: (block.inner ++ "\x7d" :: rest) := by
    simp [LineBlock.lines]
  rw [hlines, blocks, if_pos (List.isPrefixOf_iff_prefix.2 block.starts), hinner]
  rfl

/-! ### Files of blocks -/

/-- The lines of a file with a first line and blocks, each after a blank line. -/
def fileLines (first : String) (file : List LineBlock) : List String :=
  first :: file.flatMap fun block => "" :: block.lines

lemma blocks_flatMap (file : List LineBlock) (rest : List String) :
    blocks none ((file.flatMap fun block => "" :: block.lines) ++ rest) =
      file.map LineBlock.lines ++ blocks none rest := by
  induction file with
  | nil => rfl
  | cons block file ih =>
    rw [List.flatMap_cons, List.append_assoc, List.cons_append, blocks, if_neg (by simp),
      blocks_block, ih, List.map_cons, List.cons_append]

lemma LineBlock.not_mem_lines (block : LineBlock) : ∀ line ∈ block.lines, '\n' ∉ line.toList := by
  have hinner := fun line hline => (block.isInner line hline).lacks '\n' (by decide)
  have hclosing := isPart_closingBrace.lacks '\n' (by decide)
  exact List.forall_mem_cons.2 ⟨block.unbroken,
    List.forall_mem_append.2 ⟨hinner, List.forall_mem_singleton.2 hclosing⟩⟩

section

variable {first : String} (hfirst : IsPart [] first []) (file : List LineBlock)
include hfirst

lemma matched_fileLines : MatchedLines (fileLines first file) := by
  refine .cons hfirst.turns ?_
  induction file with
  | nil => exact .nil
  | cons block file ih => exact (block.matched.cons isPart_blank.turns).append ih

lemma occurrences_fileLines (mark : Mark) :
    occurrences mark.text (unlines (fileLines first file)) =
      ((file.map LineBlock.text).map (occurrences mark.text)).sum := by
  rw [mark.occurrences_unlines, fileLines, List.map_cons, List.sum_cons,
    mark.occurrences_of_isPart hfirst, Nat.zero_add]
  induction file with
  | nil => rfl
  | cons block file ih =>
    rw [List.flatMap_cons, List.map_append, List.sum_append, ih, List.map_cons, List.sum_cons,
      mark.occurrences_of_isPart isPart_blank, Nat.zero_add, ← mark.occurrences_unlines,
      List.map_cons, List.map_cons, List.sum_cons, LineBlock.text]

lemma implementations_fileLines (hstarts : ¬ "impl<".toList <+: first.toList) :
    implementations (unlines (fileLines first file)) = file.map LineBlock.text := by
  have hunbroken : ∀ line ∈ fileLines first file, '\n' ∉ line.toList := by
    refine List.forall_mem_cons.2 ⟨hfirst.lacks '\n' (by decide), fun line hline => ?_⟩
    obtain ⟨block, -, hline⟩ := List.mem_flatMap.1 hline
    have hlines : ∀ line ∈ "" :: block.lines, '\n' ∉ line.toList :=
      List.forall_mem_cons.2 ⟨isPart_blank.lacks '\n' (by decide), block.not_mem_lines⟩
    exact hlines line hline
  -- the text ends with a break, so an empty line is left after the last block
  have hlast : blocks none [""] = [] := rfl
  rw [implementations, linesOf_unlines hunbroken, fileLines, List.cons_append, blocks,
    if_neg (by rwa [List.isPrefixOf_iff_prefix]), blocks_flatMap, hlast, List.append_nil,
    List.map_map]
  rfl

end

/-! ### The file that is written -/

/-- The blocks of the file. -/
def fileBlocks (greatest : Nat) : List LineBlock :=
  Family.all.flatMap fun family =>
    (arities greatest).map (LineBlock.tuple family) ++ [LineBlock.general family]

/-- The first line of the file without its break. -/
def commentLine (greatest : Nat) : String :=
  "// @generated by gen-arity (max arity " ++ toString greatest ++ "). Do not edit by hand."

lemma head?_toList {c : Char} {cs : List Char} (s t : String) :
    (String.ofList (c :: cs) ++ s ++ t).toList.head? = some c := by
  rw [String.append_assoc, String.toList_append, String.toList_ofList, List.cons_append,
    List.head?_cons]

lemma append_ofList_append (s : String) (cs ds : List Char) :
    s ++ String.ofList cs ++ String.ofList ds = s ++ String.ofList (cs ++ ds) := by
  rw [String.append_assoc, String.ofList_append]

lemma isPart_commentLine (greatest : Nat) : IsPart [] (commentLine greatest) [] := by
  have hopen : IsPart [] "// @generated by gen-arity (max arity " [')'] :=
    .ofList (by decide) rfl
  have hclose : IsPart [')'] "). Do not edit by hand." [] := .ofList (by decide) rfl
  exact (hopen.append (IsPart.number greatest).anywhere).append hclose

lemma not_starts_commentLine (greatest : Nat) :
    ¬ "impl<".toList <+: (commentLine greatest).toList := by
  have himpl : "impl<".toList = ['i', 'm', 'p', 'l', '<'] := by rw [String.toList_ofList]
  have hcomment : (commentLine greatest).toList.head? = some '/' := head?_toList _ _
  rintro ⟨rest, h⟩
  rw [← h, himpl] at hcomment
  exact absurd hcomment (by simp)

lemma map_text_fileBlocks (greatest : Nat) :
    (fileBlocks greatest).map LineBlock.text =
      declarations .or greatest ++ declarations .and greatest := by
  simp [fileBlocks, declarations, Family.all, Function.comp_def]

lemma render_eq_join (greatest : Nat) :
    render greatest = headLine greatest ++
      String.join ((declarations .or greatest ++ declarations .and greatest).map ("\n" ++ ·)) := by
  simp [render, Family.all]

lemma render_eq (greatest : Nat) :
    render greatest = unlines (fileLines (commentLine greatest) (fileBlocks greatest)) := by
  have hhead : commentLine greatest ++ "\n" = headLine greatest := append_ofList_append _ _ _
  have hblocks (file : List LineBlock) :
      String.join ((file.map LineBlock.text).map ("\n" ++ ·)) =
        unlines (file.flatMap fun block => "" :: block.lines) := by
    induction file with
    | nil => rfl
    | cons block file ih =>
      rw [List.map_cons, List.map_cons, String.join_cons, ih, List.flatMap_cons, unlines_append,
        unlines_cons, LineBlock.text, String.empty_append]
  rw [render_eq_join, ← map_text_fileBlocks, hblocks, ← hhead, fileLines, unlines_cons]

/-- What is found in the file is what is written. -/
lemma implementations_render (greatest : Nat) :
    implementations (render greatest) =
      declarations .or greatest ++ declarations .and greatest := by
  rw [render_eq, implementations_fileLines (isPart_commentLine greatest) _
    (not_starts_commentLine greatest), map_text_fileBlocks]

lemma occurrences_declarations (mark : Mark) (family : Family) (greatest : Nat) :
    ((declarations family greatest).map (occurrences mark.text)).sum =
      (if mark = .tuple family then greatest - 1 else 0) +
        if mark = .general family ∨ mark = .list then 1 else 0 := by
  simp [declarations, arities, Mark.occurrences_tuple, Mark.occurrences_general,
    Function.comp_def]

lemma occurrences_render (mark : Mark) (greatest : Nat) :
    occurrences mark.text (render greatest) =
      (Family.all.map fun family =>
        (if mark = .tuple family then greatest - 1 else 0) +
          if mark = .general family ∨ mark = .list then 1 else 0).sum := by
  rw [render_eq, occurrences_fileLines (isPart_commentLine greatest), map_text_fileBlocks,
    List.map_append, List.sum_append, occurrences_declarations, occurrences_declarations]
  rfl

lemma prefix_arities {lesser greatest : Nat} (h : lesser ≤ greatest) :
    arities lesser <+: arities greatest := by
  obtain ⟨further, hfurther⟩ := Nat.exists_eq_add_of_le (Nat.sub_le_sub_right h 1)
  rw [arities, arities, hfurther, ← List.range'_append_1]
  exact List.prefix_append _ _

lemma marked_render_tuple (family : Family) (greatest : Nat) :
    marked (.tuple family) (render greatest) =
      (arities greatest).map (tupleDeclaration family) := by
  rw [marked, implementations_render]
  cases family <;>
    simp [declarations, List.filter_map, Function.comp_def, Mark.occurrences_tuple,
      Mark.occurrences_general]

lemma marked_render_general (family : Family) (greatest : Nat) :
    marked (.general family) (render greatest) = [generalDeclaration family] := by
  rw [marked, implementations_render]
  cases family <;>
    simp [declarations, List.filter_map, Function.comp_def, Mark.occurrences_tuple,
      Mark.occurrences_general]

/-! ### What holds of the file -/

/-- The text is an implementation of the trait of a family for the tuple of its type parameters,
which are numbered from one to the arity and are guards, each by one bound. -/
def DeclaresTuple (family : Family) (arity : Nat) (declaration : String) : Prop :=
  ∃ it, parse declaration = some it ∧ it.traitName = family.traitName ∧
    it.parameters = (List.range' 1 arity).map (fun number => "T" ++ toString number) ∧
    it.self = .tuple (it.parameters.map .name) ∧
    it.bounds = it.parameters.map fun name => (name, "Guard")

lemma declaresTuple_tupleDeclaration (family : Family) {arity : Nat} (h : 2 ≤ arity) :
    DeclaresTuple family arity (tupleDeclaration family arity) :=
  ⟨_, parse_tupleDeclaration family h, rfl, rfl, rfl, rfl⟩

/-- A file of declarations up to a greatest arity. -/
structure IsFile (greatest : Nat) (text : String) : Prop where
  nested : Nested text.toList
  /-- Each family has a declaration for each arity from two on. -/
  tupleMarks : ∀ family, occurrences (Mark.tuple family).text text = greatest - 1
  /-- Each family has one general declaration. -/
  generalMarks : ∀ family, occurrences (Mark.general family).text text = 1
  /-- Only the general declarations of the two families are for a list. -/
  listMarks : occurrences Mark.list.text text = 2
  /-- There is nothing in the file but its first line and the implementations. -/
  whole : text = headLine greatest ++ String.join ((implementations text).map ("\n" ++ ·))
  /-- The declarations of unions come first, and those for tuples before the general one. -/
  ordered : implementations text =
    marked (.tuple .or) text ++ marked (.general .or) text ++
      (marked (.tuple .and) text ++ marked (.general .and) text)
  /-- The declarations for tuples are in ascending order of their arities. -/
  ascending : ∀ family,
    List.Forall₂ (DeclaresTuple family) (List.range' 2 (greatest - 1)) (marked (.tuple family) text)
  /-- The one general declaration of a family is for a list. -/
  general : ∀ family, ∃ declaration,
    marked (.general family) text = [declaration] ∧ occurrences Mark.list.text declaration = 1

/-- The file that is written is one of declarations up to the greatest arity. -/
lemma isFile_render (greatest : Nat) : IsFile greatest (render greatest) := by
  refine ⟨?nested, fun family => ?tupleMarks, fun family => ?generalMarks, ?listMarks, ?whole,
    ?ordered, fun family => ?ascending, fun family => ?general⟩
  case nested =>
    rw [render_eq]
    exact (matched_fileLines (isPart_commentLine greatest) _).nested
  case tupleMarks =>
    rw [occurrences_render]
    cases family <;> simp [Family.all]
  case generalMarks =>
    rw [occurrences_render]
    cases family <;> simp [Family.all]
  case listMarks =>
    rw [occurrences_render]
    simp [Family.all]
  case whole =>
    rw [implementations_render]
    exact render_eq_join greatest
  case ordered =>
    simp only [implementations_render, marked_render_tuple, marked_render_general, declarations]
  case ascending =>
    rw [marked_render_tuple, List.forall₂_map_right_iff, arities, List.forall₂_same]
    intro arity harity
    exact declaresTuple_tupleDeclaration family (List.mem_range'_1.1 harity).1
  case general =>
    refine ⟨_, marked_render_general family greatest, ?_⟩
    rw [Mark.occurrences_general, if_pos (.inr rfl)]

/-- **The file that is written is well formed, whatever the greatest arity.**  Its brackets are
nested, it has the declarations of each family that it should have and in their order, and the
declarations for tuples up to a lesser arity are the first of those. -/
theorem render_isFile (greatest : Nat) :
    IsFile greatest (render greatest) ∧
      ∀ lesser ≤ greatest, ∀ family,
        marked (.tuple family) (render lesser) <+: marked (.tuple family) (render greatest) := by
  refine ⟨isFile_render greatest, fun lesser hle family => ?_⟩
  rw [marked_render_tuple, marked_render_tuple]
  exact (prefix_arities hle).map _

/-- The declarations up to two are the first of those up to three. -/
theorem render_two_prefix_render_three :
    IsFile 3 (render 3) ∧ ∀ family,
      marked (.tuple family) (render 2) <+: marked (.tuple family) (render 3) :=
  ⟨(render_isFile 3).1, (render_isFile 3).2 2 (by decide)⟩

end Narrowing.Declaration
