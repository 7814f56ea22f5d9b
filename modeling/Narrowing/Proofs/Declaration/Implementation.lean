import Narrowing.Proofs.Declaration.Parsing
/-!
# The implementation that a declaration is

The text of a declaration is its heading, a bound for each type parameter, and between braces
a type and a method.  Its lines are read piece by piece, and from the trees that they make the
implementation is read that has the parameters, the type and the body of the declaration.
-/

namespace Narrowing.Declaration

/-! ### Trees -/

/-- The tree of the lifetime that a declaration names. -/
def lifetimeTree : Tree := enclosed .angle [.leaf (.lifetime "a")]

/-- The trees of a type parameter. -/
def parameterTrees (number : Nat) : List Tree := [word (parameter number)]

/-- The trees of the bound of a type parameter. -/
def boundTrees (number : Nat) : List Tree := [word (parameter number), mark ':', word "Guard"]

/-- The trees of the heading. -/
def headTrees (family : Family) (arity : Nat) : List Tree :=
  let rows := (List.range' 1 arity).map parameterTrees
  [word "impl", separated .angle rows, word family.traitName, word "for", separated .round rows]

/-- The trees of the type that is defined. -/
def typeItemTrees (family : Family) (target : Target) : List Tree :=
  [word "type", word family.targetName, lifetimeTree, mark '='] ++ target.trees ++ [mark ';']

/-- The trees of the method before its body. -/
def signatureTrees (family : Family) : List Tree :=
  [word "fn", word family.methodName, lifetimeTree,
    .group .round [[mark '&', word "self"]]
      [word "value", mark ':', mark '&', .leaf (.lifetime "a"), word "Value"],
    .leaf .arrow, word "Option",
    enclosed .angle [word "Self", .leaf .path, word family.targetName, lifetimeTree]]

/-- The trees of the method. -/
def methodTrees (family : Family) (body : Body) : List Tree :=
  [mark '#', enclosed .square [word "inline"]] ++ signatureTrees family ++
    [enclosed .brace body.trees]

/-- The trees in the braces of a declaration. -/
def itemTrees (family : Family) (arity : Nat) : List Tree :=
  typeItemTrees family (Target.ofFamily arity family) ++
    methodTrees family (Body.ofFamily arity family)

/-- The rows of a declaration: the heading goes up to the first bound, and the braces follow
the last. -/
def declarationRows (family : Family) (arity : Nat) : Level :=
  ⟨(headTrees family arity ++ [word "where"] ++ boundTrees 1) ::
      (List.range' 2 (arity - 1)).map boundTrees,
    [enclosed .brace (itemTrees family arity)]⟩

/-! ### Lines -/

lemma spellsWord_traitName (family : Family) :
    SpellsWord family.traitName [.atom (.word family.traitName)] := by
  cases family <;> exact spellsWord_of_inWord (by decide) rfl

lemma spells_typeItem (family : Family) :
    Spells ("    type " ++ family.targetName ++ "<'a> = ")
      (rowLexemes [word "type", word family.targetName, lifetimeTree, mark '=']) := by
  cases family <;> exact fun _ => rfl

lemma spells_methodLine (family : Family) :
    Spells (methodLine family) (rowLexemes (signatureTrees family) ++ [.opening .brace]) := by
  cases family <;> exact spells_of_scan (fun _ => rfl) (fun _ => rfl)

lemma spells_headLine (family : Family) (arity : Nat) :
    Spells ("impl<" ++ commaSeparated (parameters arity) ++ "> " ++ family.traitName ++ " for (" ++
        commaSeparated (parameters arity) ++ ")") (rowLexemes (headTrees family arity)) := by
  have himpl : Spells "impl<" [.atom (.word "impl"), .opening .angle] :=
    spells_of_scan (fun _ => rfl) (fun _ => rfl)
  have hangle : Spells "> " [.closing .angle] := fun _ => rfl
  have hfor : Spells " for (" [.atom (.word "for"), .opening .round] :=
    spells_of_scan (fun _ => rfl) (fun _ => rfl)
  have hclose : Spells ")" [.closing .round] := spells_of_scan (fun _ => rfl) (fun _ => rfl)
  have hlist : SpellsWord (commaSeparated (parameters arity))
      (separatedLexemes ((List.range' 1 arity).map parameterTrees)) :=
    spellsWord_commaSeparated spellsWord_parameter _
  have hopen := (himpl.append_word hlist).append hangle ⟨_, _, rfl, rfl⟩
  have htrait := (hopen.append_word (spellsWord_traitName family)).append hfor ⟨_, _, rfl, rfl⟩
  have hline := (htrait.append_word hlist).append hclose ⟨_, _, rfl, rfl⟩
  simpa [headTrees, word, rowLexemes, Tree.lexemes, lexemes_separated] using hline

lemma spellsWord_boundLine (number : Nat) :
    SpellsWord ("    " ++ parameter number ++ ": Guard,")
      (rowLexemes (boundTrees number) ++ [.comma]) := by
  have hindent : Spells "    " [] := fun _ => rfl
  have hguard : Spells ": Guard," [.atom (.mark ':'), .atom (.word "Guard"), .comma] :=
    spells_of_scan (fun _ => rfl) (fun _ => rfl)
  have hline := (hindent.append_word (spellsWord_parameter number)).append hguard ⟨_, _, rfl, rfl⟩
  exact hline.spellsWord

/-- The text of a declaration reads as its rows. -/
lemma spells_tupleDeclaration (family : Family) {arity : Nat} (h : 2 ≤ arity) :
    Spells (tupleDeclaration family arity)
      (endedLexemes (declarationRows family arity).ended ++
        rowLexemes (declarationRows family arity).row) := by
  have hwhere : SpellsWord "where" [.atom (.word "where")] :=
    spellsWord_of_inWord (by decide) rfl
  have hbounds := SpellsLines.map spellsWord_boundLine (List.range' 1 arity)
  have hopen : Spells "\x7b" [.opening .brace] := spells_of_scan (fun _ => rfl) (fun _ => rfl)
  have hsemicolon : Spells ";" [.atom (.mark ';')] := spells_of_scan (fun _ => rfl) (fun _ => rfl)
  have htarget := spells_target (Target.ofFamily arity family)
  have htype := ((spells_typeItem family).append htarget).append hsemicolon
  have hblank : Spells "" [] := fun _ => rfl
  have hinline : Spells "    #[inline]" (rowLexemes [mark '#', enclosed .square [word "inline"]]) :=
    spells_of_scan (fun _ => rfl) (fun _ => rfl)
  have hclose : Spells "    \x7d" [.closing .brace] := spells_of_scan (fun _ => rfl) (fun _ => rfl)
  have hend : Spells "\x7d" [.closing .brace] := spells_of_scan (fun _ => rfl) (fun _ => rfl)
  have hitems := SpellsLines.nil.cons (spells_methodLine family).spellsWord
    |>.cons hinline.spellsWord |>.cons hblank.spellsWord |>.cons htype.spellsWord
    |>.cons hopen.spellsWord
  have hclosing := SpellsLines.nil.cons hend.spellsWord |>.cons hclose.spellsWord
  have hheading := (SpellsLines.nil.cons hwhere).cons (spells_headLine family arity).spellsWord
  have htext := ((hheading.append hbounds).append hitems).append
    (spells_bodyLines (Body.ofFamily arity family)) |>.append hclosing
  obtain ⟨following, rfl⟩ : ∃ following, arity = following + 1 := ⟨arity - 1, by omega⟩
  simpa [SpellsLines, tupleDeclaration, parameters, Function.comp_def, declarationRows, itemTrees,
    typeItemTrees, methodTrees, List.range'_succ, endedLexemes, endedLexemes_map, word, mark,
    enclosed, rowLexemes, Tree.lexemes] using htext

/-! ### Reading the trees -/

/-- The type that a declaration defines, as it is built. -/
def typeItem (family : Family) (target : Target) : TypeItem :=
  ⟨family.targetName, "a", target.typeExpr⟩

/-- The method that a declaration defines, as it is built. -/
def methodItem (family : Family) (body : Body) : Method where
  name := family.methodName
  lifetime := "a"
  argument := "value"
  argumentType := .reference "a" (.name "Value")
  resultType := .apply (.name "Option")
    [.apply (.member (.name "Self") family.targetName) [.lifetime "a"]]
  body := body.block

/-- A declaration, as it is built. -/
def implementation (family : Family) (arity : Nat) : Implementation where
  parameters := parameters arity
  traitName := family.traitName
  self := .tuple ((parameters arity).map .name)
  bounds := (parameters arity).map fun name => (name, "Guard")
  typeItem := typeItem family (Target.ofFamily arity family)
  method := methodItem family (Body.ofFamily arity family)

lemma parseMethod_method (family : Family) {body : Body} (h : body.Plural) :
    parseMethod (methodTrees family body) = some (methodItem family body) := by
  show (do
    return Method.mk family.methodName "a" "value"
      (← parseType [mark '&', .leaf (.lifetime "a"), word "Value"])
      (← parseType [word "Option",
        enclosed .angle [word "Self", .leaf .path, word family.targetName, lifetimeTree]])
      (← parseBlock body.trees)) = _
  rw [parseBlock_body body h]
  rfl

lemma span_target (target : Target) (rest : List Tree) :
    (target.trees ++ mark ';' :: rest).span (!endsStatement ·) =
      (target.trees, mark ';' :: rest) := by
  cases target <;> rfl

/-- The type item goes up to the separator that follows its definition. -/
lemma parseItems_type (name lifetime : String) {definition method rest : List Tree}
    {separator : Tree}
    (hspan : rest.span (!endsStatement ·) = (definition, separator :: method)) :
    parseItems ([word "type", word name, enclosed .angle [.leaf (.lifetime lifetime)], mark '='] ++
        rest) = (do
      return (⟨name, lifetime, ← parseType definition⟩, ← parseMethod method)) := by
  simp only [word, mark, enclosed, List.cons_append, List.nil_append, parseItems, hspan]

lemma parseItems_items (family : Family) {arity : Nat} (h : 2 ≤ arity) :
    parseItems (itemTrees family arity) =
      some (typeItem family (Target.ofFamily arity family),
        methodItem family (Body.ofFamily arity family)) := by
  have hplural : (Body.ofFamily arity family).Plural := by
    cases family with
    | or => trivial
    | and => simpa [Body.ofFamily, Body.Plural] using h
  have hitems := parseItems_type family.targetName "a" (span_target (Target.ofFamily arity family)
    (methodTrees family (Body.ofFamily arity family)))
  rw [parseType_ofFamily family h, parseMethod_method family hplural] at hitems
  simpa [itemTrees, typeItemTrees, typeItem, lifetimeTree] using hitems

lemma parseParameter_parameter (number : Nat) :
    parseParameter (parameterTrees number) = some (parameter number) := rfl

lemma parseType_parameter (number : Nat) :
    parseType (parameterTrees number) = some (.name (parameter number)) := rfl

lemma parseBound_bound (number : Nat) :
    parseBound (boundTrees number) = some (parameter number, "Guard") := rfl

lemma parseRows_declaration (family : Family) {arity : Nat} (h : 2 ≤ arity) :
    parseRows (declarationRows family arity) = some (implementation family arity) := by
  have hrows : (List.range' 1 arity).map parameterTrees ≠ [] := by simp; omega
  have hself : parseType [separated .round ((List.range' 1 arity).map parameterTrees)] =
      some (.tuple ((List.range' 1 arity).map fun n => .name (parameter n))) :=
    parseType_separated parseType_parameter (by simpa using h)
  have hbounds : boundTrees 1 :: (List.range' 2 (arity - 1)).map boundTrees =
      (List.range' 1 arity).map boundTrees := by
    obtain ⟨following, rfl⟩ : ∃ following, arity = following + 1 := ⟨arity - 1, by omega⟩
    rfl
  simp only [declarationRows, headTrees, separated, List.cons_append, List.nil_append, word,
    enclosed, parseRows, parseItems_items family h, dropLast_append_getLast? hrows, hbounds,
    mapM_map_some fun n _ => parseParameter_parameter n,
    mapM_map_some fun n _ => parseBound_bound n]
  rw [← separated, hself]
  simp [implementation, parameters, Function.comp_def]

/-- **The text of a declaration is read as the declaration.**  For every family and arity, the
brackets of the text match, and its trees are those of an implementation for the tuple of as
many type parameters, which defines the type and the body of the declaration. -/
theorem parse_tupleDeclaration (family : Family) {arity : Nat} (h : 2 ≤ arity) :
    parse (tupleDeclaration family arity) = some (implementation family arity) := by
  rw [parse, trees_eq (spells_tupleDeclaration family h)]
  exact parseRows_declaration family h

end Narrowing.Declaration
