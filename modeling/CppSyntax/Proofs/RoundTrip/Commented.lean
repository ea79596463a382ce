import CppSyntax.Proofs.Commented.Reading
import CppSyntax.Proofs.Layout.Tree
import CppSyntax.Roundtrip

/-!
Comments and empty lines keep their places when a unit is rendered and read again.
-/

namespace CppSyntax

open CppSyntax.Parser Grammar Render Doc

/-- Declarations with comments around them, nested at most so deep: namespaces, classes with a simple
name and no bases, access labels inside classes, variables, and directives, which have no comment
behind them. -/
inductive Tree.Commented : Scope → Nat → Declaration → Prop where
  | integer {scope : Scope} {levels : Nat} {place : Placement} {ident : String}
      (comments : place.HoldsComments) (valid : isIdentifier ident = true) :
      Commented scope levels (.declaration place (.integerVariable ident))
  | directive {scope : Scope} {levels : Nat} {place : Placement} {text : String}
      (comments : place.HoldsComments) (alone : place.trailingComment = none)
      (isDirective : IsDirective text) :
      Commented scope levels (.declaration place (.directive text))
  | accessLabel {levels : Nat} {place : Placement} {access : Access}
      (comments : place.HoldsComments) :
      Commented .inClass levels (.declaration place (.accessLabel access))
  | namespaceBlock {scope : Scope} {levels : Nat} {place : Placement} {path : List String}
      {isInline : Bool} {members : Trees .declaration} {closing : List String}
      (comments : place.HoldsComments) (valid : ∀ ident ∈ path, isIdentifier ident = true)
      (inside : ∀ inner ∈ members.toList, Commented .inNamespace levels inner)
      (close : members.StartsClose) (areComments : ∀ comment ∈ closing, IsComment comment) :
      Commented scope (levels + 1)
        (.declaration place (.namespaceBlock path isInline members closing))
  | classDeclaration {scope : Scope} {levels : Nat} {place : Placement} {key : ClassKey}
      {ident : String} {isFinal : Bool} {members : Trees .declaration} {closing : List String}
      (comments : place.HoldsComments) (valid : isIdentifier ident = true)
      (inside : ∀ inner ∈ members.toList, Commented .inClass levels inner)
      (close : members.StartsClose) (areComments : ∀ comment ∈ closing, IsComment comment) :
      Commented scope (levels + 1)
        (.declaration place (.plainClass key ident isFinal members closing))

namespace Tree

/-- What is written of the declaration and what is read from it are the same tokens. -/
def IsCarried (scope : Scope) (nest : Nat) (inner : Declaration) (tokens : List Token) : Prop :=
  inner.WrittenAs tokens ∧ inner.ReadAs scope nest tokens

private theorem rows_of_forall {scope : Scope} {nest : Nat} {members : List Declaration}
    (carried : ∀ inner ∈ members, ∃ tokens, IsCarried scope nest inner tokens) :
    ∃ rows, List.Forall₂ WrittenAs members rows ∧ List.Forall₂ (ReadAs scope nest) members rows := by
  induction members with
  | nil => exact ⟨[], .nil, .nil⟩
  | cons inner members ih =>
    obtain ⟨tokens, written, read⟩ := carried inner (List.mem_cons_self ..)
    obtain ⟨rows, writtenRows, readRows⟩ := ih fun other member =>
      carried other (List.mem_cons_of_mem _ member)
    exact ⟨tokens :: rows, .cons written writtenRows, .cons read readRows⟩

theorem Commented.carried {scope : Scope} {levels : Nat} {inner : Declaration}
    (commented : Commented scope levels inner) :
    ∃ tokens, IsCarried scope (levels + 2) inner tokens := by
  induction commented with
  | integer comments valid => exact ⟨_, writtenAs_variable valid comments, readAs_variable _⟩
  | directive comments alone isDirective =>
    exact ⟨_, writtenAs_directive isDirective comments, readAs_directive alone⟩
  | accessLabel comments => exact ⟨_, writtenAs_label _ comments, readAs_label _⟩
  | namespaceBlock comments valid _ close areComments ih =>
    obtain ⟨rows, written, read⟩ := rows_of_forall ih
    exact ⟨_, writtenAs_namespace _ valid (WrittenAs.row written close true) areComments comments,
      readAs_namespace _ _ read⟩
  | classDeclaration comments valid _ close areComments ih =>
    obtain ⟨rows, written, read⟩ := rows_of_forall ih
    exact ⟨_, writtenAs_class _ _ valid (WrittenAs.row written close true) areComments comments,
      readAs_class _ _ read⟩

section

variable {declarations : Trees .declaration} {closing : List String} {rows : List (List Token)}

/-- The last token of a unit, with the comments before the end. -/
private def endToken (closing : List String) : Token :=
  { Token.plain .endOfFile false with leadingComments := closing }

private theorem unit_written (written : List.Forall₂ WrittenAs declarations.toList rows)
    (close : declarations.StartsClose) (areComments : ∀ comment ∈ closing, IsComment comment)
    (options : RenderOptions) :
    Lexed false true .empty (render options (.unit declarations closing)).toList none
      (rows.flatten ++ [endToken closing]) := by
  let layout : Layout := ⟨options, (Tree.unit declarations closing).typeNames, 0, false⟩
  have comments (afterToken : Bool) : LexedLines afterToken ((commentLines closing layout).toList ++ [])
      [endToken closing] := by
    simpa [endToken, Token.ledBy, Token.plain] using LexedLines.nil.comments areComments layout
  have lines := WrittenAs.row written close false layout _ _ comments .empty (by simp)
  have text : render options (.unit declarations closing) =
      declarationLines declarations.drawn layout ++ commentLines closing layout := rfl
  rw [text]
  simpa [Gap.empty] using lines

private theorem unit_reads {nest : Nat} {all : List Token} {g : Grammar Parser}
    (read : List.Forall₂ (ReadAs .inNamespace nest) declarations.toList rows)
    (fits : nest ≤ nestingLimit) (whole : all = rows.flatten ++ [endToken closing])
    (derived : g.IsDerived) :
    g.translationUnit.ReadsUnder (State.Along all) .top True (all.map Token.glyph)
      (·.without .locations = (Tree.unit declarations closing).without .locations)
      [⟨.endOfFile, false⟩] := by
  have room : Room True .top nest := ⟨rfl, fun _ => (Nat.zero_add _).symm ▸ fits⟩
  have goesOn : ∀ kind : TokenKind, kind.startsDeclaration = true → (kind == .endOfFile) = false := by
    intro kind starts
    cases kind <;> first | rfl | cases starts
  have row : ReadsRow (State.Along all) (g.declaration .inNamespace) .top True
      (fun kind => kind == .endOfFile) (·.without .locations)
      (declarations.toList.map (·.without .locations)) (all.map Token.glyph) [⟨.endOfFile, false⟩] := by
    have tokens : all.map Token.glyph = (rows.flatten ++ [endToken closing]).map Token.glyph :=
      congrArg _ whole
    have fromStart : all = [] ++ (rows.flatten ++ [endToken closing]) := whole
    rw [tokens]
    exact ReadAs.row read rfl goesOn derived room fromStart
  refine ReadsUnder.bind (row.iterate [] g.fuel) fun found same =>
    .byPlace fun state along left => .pure ?_
  have comments : state.current.unplaced.leadingComments = closing :=
    congrArg Token.leadingComments (along.current whole left)
  have comments : state.current.leadingComments = closing := comments
  show Tree.unit ((Trees.ofList found).without .locations) state.current.leadingComments =
    .unit (declarations.without .locations) closing
  rw [Trees.without_ofList, same, comments, List.map_nil, List.nil_append, ← Trees.toList_without,
    Trees.ofList_toList]

end

/-- A unit of commented declarations is read back as it was, with all its comments and empty lines; only
the places of its nodes may be others. -/
theorem Commented.roundtrip_comments {declarations : Trees .declaration} {closing : List String}
    (inside : ∀ inner ∈ declarations.toList, Commented .inNamespace 100 inner)
    (close : declarations.StartsClose) (areComments : ∀ comment ∈ closing, IsComment comment)
    (options : RenderOptions) :
    ∃ again, parse (render options (.unit declarations closing)) = .ok again ∧
      again.without .locations = (Tree.unit declarations closing).without .locations := by
  obtain ⟨rows, written, read⟩ := rows_of_forall fun inner member => (inside inner member).carried
  have lexed := unit_written written close areComments options
  obtain ⟨tokens, found, same⟩ := Token.ofSource_of_lexed lexed.unmarked lexed
  have start : (State.start (libraryTypeNames ++ []) tokens).Along (rows.flatten ++ [endToken closing]) := by
    cases tokens with
    | nil => simp at same
    | cons first following => exact ⟨[], same.symm, rfl⟩
  have glyphs : tokens.map Token.glyph = (rows.flatten ++ [endToken closing]).map Token.glyph := by
    rw [← same, List.map_map]
    rfl
  have answers := parse_of_reads found start fun g derived =>
    glyphs ▸ unit_reads read (by decide) rfl derived
  exact answers.resolve_right fun unsure => unsure.1 trivial

/-- What is left of a tree is the same if no more than that was erased before. -/
theorem without_without {erasure other : Erasure}
    (place : ∀ place, other.place (erasure.place place) = other.place place)
    (closing : ∀ comments, other.closing (erasure.closing comments) = other.closing comments)
    {c : Category} (tree : Tree c) : (tree.without erasure).without other = tree.without other := by
  apply @Tree.rec (fun _ tree => (tree.without erasure).without other = tree.without other)
    (fun _ items => (items.without erasure).without other = items.without other)
    (fun _ part => (part.without erasure).without other = part.without other)
  all_goals intros
  all_goals first
    | rfl
    | (conv => lhs; whnf)
      (conv => rhs; whnf)
      simp only [*]

/-- A unit of commented declarations survives, since places are no part of its structure. -/
theorem Commented.unit_lasts {declarations : Trees .declaration} {closing : List String}
    (inside : ∀ inner ∈ declarations.toList, Commented .inNamespace 100 inner)
    (close : declarations.StartsClose) (areComments : ∀ comment ∈ closing, IsComment comment)
    (options : RenderOptions) : survives options (.unit declarations closing) = true := by
  obtain ⟨again, read, same⟩ := roundtrip_comments inside close areComments options
  have erased {c : Category} (tree : Tree c) : (tree.without .locations).erase = tree.erase :=
    tree.without_without (fun _ => rfl) fun _ => rfl
  rw [survives, read]
  refine sameStructure_iff.mpr ?_
  rw [← erased, ← erased again, same]

/-- A class with comments at every place. -/
def commentedClass : Declaration :=
  .declaration ⟨.start, ["/* c */", "// a"], some "// b", false⟩
    (.plainClass .structKey "S" true
      (.cons (.declaration ⟨.start, [], some "// a", false⟩ (.accessLabel .isPublic))
        (.cons (.declaration ⟨.start, ["// b"], none, true⟩ (.integerVariable "n")) .nil))
      ["/* c */"])

/-- The class in a namespace, behind a directive over two lines. -/
def commentedUnit : TranslationUnit :=
  .unit
    (.cons (.declaration ⟨.start, ["// a"], none, false⟩ (.directive "#define M \\\n  1"))
      (.cons (.declaration ⟨.start, [], some "// b", true⟩
        (.namespaceBlock ["p", "q"] false (.cons commentedClass .nil) [])) .nil))
    ["// a", "// b"]

theorem commentedUnit_commented : ∃ declarations closing, commentedUnit = .unit declarations closing ∧
    (∀ inner ∈ declarations.toList, Commented .inNamespace 100 inner) ∧ declarations.StartsClose ∧
    ∀ comment ∈ closing, IsComment comment := by
  have a : IsComment "// a" :=
    .line [' ', 'a'] (by simp) (by simp) (by rintro _ ⟨⟩; decide)
  have b : IsComment "// b" :=
    .line [' ', 'b'] (by simp) (by simp) (by rintro _ ⟨⟩; decide)
  have c : IsComment "/* c */" := .block [' ', 'c', ' '] (by simp) (by decide)
  have isDirective : IsDirective "#define M \\\n  1" :=
    ⟨by simp, by decide +kernel, by simp; decide, by simp⟩
  have label : Commented .inClass 98
      (.declaration ⟨.start, [], some "// a", false⟩ (.accessLabel .isPublic)) :=
    .accessLabel ⟨by simp, by simp [a]⟩
  have member : Commented .inClass 98
      (.declaration ⟨.start, ["// b"], none, true⟩ (.integerVariable "n")) :=
    .integer ⟨by simp [b], by simp⟩ (by decide +kernel)
  have definition : Commented .inNamespace 99 commentedClass :=
    .classDeclaration ⟨by simp [a, c], by simp [b]⟩ (by decide +kernel)
      (List.forall_mem_cons.mpr ⟨label, List.forall_mem_cons.mpr ⟨member, List.forall_mem_nil _⟩⟩)
      (by simp [Trees.StartsClose, Trees.toList, followsBlank]) (by simp [c])
  refine ⟨_, _, rfl, List.forall_mem_cons.mpr ⟨?_, List.forall_mem_cons.mpr
    ⟨?_, List.forall_mem_nil _⟩⟩, ?_, by simp [a, b]⟩
  · exact .directive ⟨by simp [a], by simp⟩ rfl isDirective
  · exact .namespaceBlock ⟨by simp, by simp [b]⟩ (by decide +kernel)
      (List.forall_mem_cons.mpr ⟨definition, List.forall_mem_nil _⟩)
      (by simp [Trees.StartsClose, Trees.toList, followsBlank, commentedClass]) (by simp)
  · simp [Trees.StartsClose, Trees.toList, followsBlank]

/-- The comments of the unit stand where they stood, around and between its declarations. -/
theorem commented_roundtrip_unit : ∃ again, parse (render .standard commentedUnit) = .ok again ∧
    again.without .locations = commentedUnit.without .locations := by
  obtain ⟨declarations, closing, same, inside, close, areComments⟩ := commentedUnit_commented
  rw [same]
  exact Commented.roundtrip_comments inside close areComments .standard

/-- The tokens of a commented unit are the same in any two layouts, and so are the comments and the empty
lines around them. Only the places differ. -/
theorem Commented.sameTokens {declarations : Trees .declaration} {closing : List String} {levels : Nat}
    (inside : ∀ inner ∈ declarations.toList, Commented .inNamespace levels inner)
    (close : declarations.StartsClose) (areComments : ∀ comment ∈ closing, IsComment comment)
    (first second : RenderOptions) :
    ∃ tokens others, Token.ofSource (render first (.unit declarations closing)) = .ok tokens ∧
      Token.ofSource (render second (.unit declarations closing)) = .ok others ∧
      tokens.map Token.unplaced = others.map Token.unplaced := by
  obtain ⟨rows, written, _⟩ := rows_of_forall fun inner member => (inside inner member).carried
  have lexed := unit_written written close areComments
  obtain ⟨tokens, found, same⟩ := Token.ofSource_of_lexed (lexed first).unmarked (lexed first)
  obtain ⟨others, again, alike⟩ := Token.ofSource_of_lexed (lexed second).unmarked (lexed second)
  exact ⟨tokens, others, found, again, same.trans alike.symm⟩

end Tree

/-- Options change the layout of a unit and nothing else. The tokens of a commented unit are the same in
any two layouts, with the comments and the empty lines around them. In a text without quotes and comments
the rules see the same tokens and read the same tree, or no tree, whatever the unit holds: lambdas in its
expressions, classes and enumerations in its types. -/
theorem render_sameTokens (first second : RenderOptions) :
    (∀ (declarations : Trees .declaration) (closing : List String) (levels : Nat),
      (∀ inner ∈ declarations.toList, Tree.Commented .inNamespace levels inner) →
      declarations.StartsClose →
      (∀ comment ∈ closing, IsComment comment) →
      ∃ tokens others, Token.ofSource (render first (.unit declarations closing)) = .ok tokens ∧
        Token.ofSource (render second (.unit declarations closing)) = .ok others ∧
        tokens.map Token.unplaced = others.map Token.unplaced) ∧
    ∀ unit : TranslationUnit, Text.isPlain (render first unit).toList = true →
      Token.glyphsOf (render first unit) = Token.glyphsOf (render second unit) ∧
      (parse (render first unit)).toOption.map (·.without .layout) =
        (parse (render second unit)).toOption.map (·.without .layout) := by
  refine ⟨fun _ _ _ inside close areComments =>
    Tree.Commented.sameTokens inside close areComments first second, fun unit plain => ?_⟩
  have glyphs := render_sameGlyphs plain second
  exact ⟨glyphs, parse_of_glyphs glyphs⟩

/-- A function object in which one expression would be taken for a declaration, one value for a parameter
and one comparison for template arguments. All of them hold lambdas or stand behind them. -/
def guardedSource : String :=
  "struct T; auto f = [] { enum { A }; (a * b[c([] { d; })]); int v((T(a))); return (a < b) > ([] { d; }, e); };"

/-- Braces at the ends of lines and braces on lines of their own. -/
theorem render_sameTokens_lambda :
    (∃ tokens others, Token.ofSource (render .standard Tree.commentedUnit) = .ok tokens ∧
      Token.ofSource (render ⟨4, .sameLine⟩ Tree.commentedUnit) = .ok others ∧
      tokens.map Token.unplaced = others.map Token.unplaced) ∧
    ∃ unit, parse guardedSource = .ok unit ∧
      render .standard unit ≠ render ⟨4, .sameLine⟩ unit ∧
      Text.isPlain (render .standard unit).toList = true ∧
      Token.glyphsOf (render .standard unit) = Token.glyphsOf (render ⟨4, .sameLine⟩ unit) ∧
      (parse (render .standard unit)).toOption.map (·.without .layout) =
        (parse (render ⟨4, .sameLine⟩ unit)).toOption.map (·.without .layout) := by
  have both := render_sameTokens .standard ⟨4, .sameLine⟩
  constructor
  · obtain ⟨declarations, closing, same, inside, close, areComments⟩ := Tree.commentedUnit_commented
    rw [same]
    exact both.1 declarations closing 100 inside close areComments
  · have computed : ((parse guardedSource).toOption.any fun unit =>
          decide (render .standard unit ≠ render ⟨4, .sameLine⟩ unit) &&
            Text.isPlain (render .standard unit).toList) = true := by
      decide +kernel
    obtain ⟨unit, parsed, rest⟩ := (Option.any_eq_true _ _).mp computed
    obtain ⟨differ, plain⟩ := Bool.and_eq_true_iff.mp rest
    exact ⟨unit, toOption_eq_some.mp parsed, of_decide_eq_true differ, plain, both.2 unit plain⟩

/-- Neither a directive nor what attributes and alignments begin with. -/
def TokenKind.isUnadorned : TokenKind → Bool
  | .directive _ | .punctuator .leftBracket | .keyword .kwAlignas => false
  | _ => true

/-- Without a blank between `operator/` and the star behind it a comment is opened. Whether the brace
behind the next comment is in that one depends on the layout. -/
theorem parse_tokensDepend : ¬ ∀ (source : String) (unit : TranslationUnit) (tokens : List Token)
    (first second : RenderOptions), parse source = .ok unit → Token.ofSource source = .ok tokens →
      (∀ token ∈ tokens, token.IsQuiet ∧ token.kind.isUnadorned = true) →
        (Token.ofSource (render first unit)).toOption.map (·.map Token.glyph) =
          (Token.ofSource (render second unit)).toOption.map (·.map Token.glyph) := by
  intro alike
  let source := "struct X::operator/ *p; extern \"*/+ y; void g() //\" { }"
  have differ : ((parse source).toOption.any fun unit => (Token.ofSource source).toOption.any fun tokens =>
      decide ((∀ token ∈ tokens, (token.leadingComments = [] ∧ token.trailingComment = none) ∧
        token.kind.isUnadorned = true) ∧
          (Token.ofSource (render .standard unit)).toOption.map (·.map Token.glyph) ≠
            (Token.ofSource (render ⟨2, .sameLine⟩ unit)).toOption.map (·.map Token.glyph))) = true := by
    decide +kernel
  obtain ⟨unit, parsed, rest⟩ := (Option.any_eq_true _ _).mp differ
  obtain ⟨tokens, lexed, compared⟩ := (Option.any_eq_true _ _).mp rest
  obtain ⟨plain, other⟩ := of_decide_eq_true compared
  exact other (alike source unit tokens .standard ⟨2, .sameLine⟩ (toOption_eq_some.mp parsed)
    (toOption_eq_some.mp lexed) plain)

end CppSyntax
