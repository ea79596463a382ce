import CppSyntax.Proofs.RoundTrip.Alias
import CppSyntax.Proofs.RoundTrip.Branches
import CppSyntax.Proofs.RoundTrip.Commented
import CppSyntax.Proofs.RoundTrip.RightNested
import CppSyntax.Proofs.RoundTrip.Typedef

/-!
Units of several declarations of different sorts. Declarations of types are written with the tokens that
they are read from. These and others are read back as they are, whatever the layout.
-/

namespace CppSyntax

open CppSyntax.Parser

/-- Typedefs of builtin types and aliases within the limit, with the kinds of their tokens. -/
inductive Tree.DeclaresTypes : Tree .declarationForm → List TokenKind → Prop where
  | typedef {nest : Nat} {words : List Keyword} {first : Declarator} {shapes : Trees .declarator}
      (cv : Qualifiers) (builtin : ∀ word ∈ words, word.isBuiltinType = true) (nonempty : words ≠ [])
      (each : ∀ shape ∈ (Trees.cons first shapes).toList,
        shape.InsideOut nest ∧ shape.declaredName?.isSome = true) (fits : nest + 3 ≤ nestingLimit) :
      DeclaresTypes (.builtinTypedef cv words (.cons first shapes)) (typedefKinds cv words first shapes)
  | typeAlias {nest : Nat} {ident : String} {target : TypeId} (valid : isIdentifier ident = true)
      (angled : target.InAngles nest) (fits : nest + 2 ≤ nestingLimit) :
      DeclaresTypes (.typeAlias ident target) (aliasKinds ident target)

theorem Tree.DeclaresTypes.hasKinds {form : Tree .declarationForm} {kinds : List TokenKind}
    (declares : form.DeclaresTypes kinds) : form.HasKinds (nestingLimit - 1) kinds := by
  cases declares with
  | typedef cv builtin nonempty each fits =>
    exact (typedef_hasKinds cv builtin nonempty each).mono (Nat.le_sub_of_add_le fits)
  | typeAlias valid angled fits =>
    exact (typeAlias_hasKinds valid angled).mono (Nat.le_sub_of_add_le fits)

/-- Declarations of types without comments are rendered with the tokens that they are read from, under all
declarators and in all lists of template arguments that nest within the limit: the same identifiers, and no
other ones. -/
theorem Tree.DeclaresTypes.keepsTokens {rows : List (Tree .declarationForm × List TokenKind)}
    (each : ∀ row ∈ rows, row.1.DeclaresTypes row.2) {source : String} {tokens : List Token}
    (lexed : Token.ofSource source = .ok tokens) (quiet : ∀ token ∈ tokens, token.IsQuiet)
    (same : tokens.map (·.kind) = (rows.map (·.2)).flatten ++ [.endOfFile]) (options : RenderOptions) :
    ∃ unit, parse source = .ok unit ∧ Token.kindsOf (render options unit) = Token.kindsOf source := by
  have known : ∀ row ∈ rows, row.1.HasKinds _ row.2 := fun row member => (each row member).hasKinds
  obtain ⟨found, read, seen⟩ := HasKinds.parsed known (Nat.le_refl nestingLimit) lexed quiet same
  refine ⟨_, read, ?_⟩
  rw [HasKinds.kindsOf_render known seen options, ← same]
  exact (Token.kindsOf_eq_some.mpr ⟨tokens, lexed, rfl⟩).symm

theorem Tree.callbackTable_declared : (Tree.builtinTypedef .none [.kwUnsigned, .kwLong]
    (.cons callbackTable .nil)).DeclaresTypes (typedefKinds .none [.kwUnsigned, .kwLong] callbackTable .nil) :=
  .typedef .none (by decide) (by decide) (List.forall_mem_singleton.mpr ⟨callbackTable_insideOut, rfl⟩)
    (by decide)

theorem Tree.nestedBoxes_declared :
    (Tree.typeAlias "X" .nestedBoxes).DeclaresTypes (aliasKinds "X" .nestedBoxes) :=
  .typeAlias (by decide) nestedBoxes_inAngles (by decide)

/-- Nested boxes before a table of callbacks, wherever blanks stand between the tokens. -/
theorem Tree.DeclaresTypes.keepsTokens_boxes :
    let source := "using X=const::A<3,B< int*> >::C< >*const&;\ntypedef unsigned long*( *const f [2] )\n(char (* )( ... )) ;"
    ∃ unit, parse source = .ok unit ∧ Token.kindsOf (render .standard unit) = Token.kindsOf source := by
  intro source
  let rows : List (Tree .declarationForm × List TokenKind) :=
    [(.typeAlias "X" .nestedBoxes, aliasKinds "X" .nestedBoxes),
      (.builtinTypedef .none [.kwUnsigned, .kwLong] (.cons .callbackTable .nil),
        typedefKinds .none [.kwUnsigned, .kwLong] .callbackTable .nil)]
  have each : ∀ row ∈ rows, row.1.DeclaresTypes row.2 :=
    List.forall_mem_cons.mpr ⟨nestedBoxes_declared, List.forall_mem_singleton.mpr callbackTable_declared⟩
  have spread : (Token.ofSource source).toOption.any (fun tokens =>
      decide ((∀ token ∈ tokens, token.leadingComments = [] ∧ token.trailingComment = none) ∧
        tokens.map (·.kind) = (rows.map (·.2)).flatten ++ [.endOfFile])) = true := by
    decide +kernel
  obtain ⟨tokens, found, plain⟩ := (Option.any_eq_true _ _).mp spread
  obtain ⟨quiet, same⟩ := of_decide_eq_true plain
  exact DeclaresTypes.keepsTokens each (toOption_eq_some.mp found) quiet same .standard

/-- The attribute of a class that is not defined has no place in its tree. -/
theorem parse_losesAttribute : ¬ ∀ (source : String) (unit : TranslationUnit)
    (options : RenderOptions), parse source = .ok unit → ∃ kinds again,
      Token.kindsOf source = some kinds ∧ Token.kindsOf (render options unit) = some again ∧
        ∀ ident, .identifier ident ∈ again ↔ .identifier ident ∈ kinds := by
  intro kept
  have lost : ((parse "struct [[foo]] X;").toOption.map fun unit =>
      (Token.kindsOf "struct [[foo]] X;", Token.kindsOf (render .standard unit))) =
      some (some [.keyword .kwStruct, .punctuator .leftBracket, .punctuator .leftBracket,
        .identifier "foo", .punctuator .rightBracket, .punctuator .rightBracket, .identifier "X",
        .punctuator .semicolon, .endOfFile],
        some [.keyword .kwStruct, .identifier "X", .punctuator .semicolon, .endOfFile]) := by
    decide +kernel
  obtain ⟨unit, parsed, kinds⟩ := Option.map_eq_some_iff.mp lost
  obtain ⟨before, after⟩ := Prod.mk.inj kinds
  obtain ⟨kinds, again, read, written, same⟩ := kept _ unit .standard (toOption_eq_some.mp parsed)
  obtain rfl := Option.some.inj (read.symm.trans before)
  obtain rfl := Option.some.inj (written.symm.trans after)
  exact absurd ((same "foo").mpr (by decide)) (by decide)

/-- An expression that is read back as it is: one without names or over names that is not too high, or a
chain. -/
inductive Tree.LastingValue : Expr → Prop where
  | nameless {value : Expr} (nameless : value.Nameless) (low : value.height ≤ 100) : LastingValue value
  | overNames {value : Expr} (names : value.OverNames) (low : value.height ≤ 100) : LastingValue value
  | rightNested {count : Nat} {value : Expr} (chain : RightNested false count value) : LastingValue value

theorem Tree.LastingValue.standsLast {value : Expr} (lasting : value.LastingValue) :
    value.StandsLast 202 := by
  cases lasting with
  | nameless nameless low => exact nameless.written.standsLast.mono (by omega)
  | overNames names low => exact names.laidOut.standsLast.mono (by omega)
  | rightNested chain => exact chain.written.1.standsLast

/-- A statement that is read back as it is: nothing in it is repaired, or it returns a chain. -/
inductive Tree.Unrepaired : Statement → Prop where
  | ofNumbers {body : Statement} (numbers : body.OfNumbers) (same : body.repaired = body)
      (low : body.height ≤ 100) : Unrepaired body
  | returning {place : Placement} {value : Expr} (noLeading : place.leadingComments = [])
      (noTrailing : place.trailingComment = none) (lasting : value.LastingValue) :
      Unrepaired (.statement place (.returnStatement (.present value)))

theorem Tree.Unrepaired.statedAs {body : Statement} (unrepaired : body.Unrepaired) :
    body.StatedAs 204 body.erase := by
  cases unrepaired with
  | ofNumbers numbers same low =>
    have stated := numbers.statedAs
    rw [readBack, same] at stated
    exact stated.mono (by omega)
  | returning noLeading noTrailing lasting =>
    exact ⟨_, _, _, rfl, rfl, ⟨noLeading, noTrailing, rfl⟩, lasting.standsLast.returned⟩

/-- Declarations without comments: those of types, variables that start as an expression that lasts, and
functions of statements that are not repaired. -/
inductive Tree.Lasting : Tree .declarationForm → Prop where
  | declaresTypes {form : Tree .declarationForm} {kinds : List TokenKind}
      (declares : form.DeclaresTypes kinds) : Lasting form
  | initialized (cv : Qualifiers) {words : List Keyword} {ident : String} {value : Expr}
      (builtin : ∀ word ∈ words, word.isBuiltinType = true) (nonempty : words ≠ [])
      (valid : isIdentifier ident = true) (lasting : value.LastingValue) :
      Lasting (.initialized cv words ident value)
  | function {statements : Trees .statement} (inside : ∀ body ∈ statements.toList, body.Unrepaired) :
      Lasting (.plainFunction (.block statements []))

theorem Tree.Lasting.rereads {form : Tree .declarationForm} (lasting : form.Lasting) :
    form.Rereads True (nestingLimit - 1) form.erase := by
  cases lasting with
  | declaresTypes declares => exact declares.hasKinds.rereads
  | initialized cv builtin nonempty valid lasting =>
    exact (lasting.standsLast.initialized builtin nonempty valid).mono (by decide)
  | @function statements inside =>
    have function : (plainFunction _).Rereads True 205 _ :=
      plainFunction_rereads fun body member => (inside body member).statedAs
    have same : (Tree.plainFunction (.block statements [])).erase =
        .plainFunction (.block (.ofList (statements.toList.map Tree.erase)) []) := by
      show Tree.plainFunction (.block statements.erase []) = _
      rw [← Trees.toList_without, Trees.ofList_toList]
    exact same ▸ function.mono (by decide)

/-- Units of any number of such declarations, and units of declarations with comments. -/
inductive Tree.LastingUnit : TranslationUnit → Prop where
  | ofLasting {declarations : Trees .declaration}
      (each : ∀ inner ∈ declarations.toList, ∃ location blankLineBefore form,
        inner = .declaration ⟨location, [], none, blankLineBefore⟩ form ∧ form.Lasting) :
      LastingUnit (.unit declarations [])
  | ofCommented {declarations : Trees .declaration} {closing : List String}
      (inside : ∀ inner ∈ declarations.toList, Commented .inNamespace 100 inner)
      (close : declarations.StartsClose) (areComments : ∀ comment ∈ closing, IsComment comment) :
      LastingUnit (.unit declarations closing)

/-- Such a unit survives in every layout. -/
theorem Tree.LastingUnit.unit_survives {unit : TranslationUnit} (lasting : unit.LastingUnit)
    (options : RenderOptions) : survives options unit = true := by
  cases lasting with
  | ofLasting each =>
    refine survives_of_reread (fun inner member => ?_) (Nat.le_refl nestingLimit) options
    obtain ⟨location, blankLineBefore, form, same, lasting⟩ := each inner member
    exact ⟨location, blankLineBefore, form, same, lasting.rereads⟩
  | ofCommented inside close areComments => exact Commented.unit_lasts inside close areComments options

/-- A loop, and a throw that is returned. -/
def Trees.lastingBody : Trees .statement :=
  .cons (.statement .erased (.whileStatement (.integerTest "1") (.statement .erased .breakStatement)))
    (.cons (.statement .erased (.returnStatement (.present (Tree.throws 9)))) .nil)

/-- Both `a<b` and `c>d`, with parentheses where a name of a template would stand. -/
def Tree.comparedBoth : Expr :=
  .binary .logicalOr (.binary .less (.nameExpression (.simpleName "a")) (.nameExpression (.simpleName "b")))
    (.binary .greater (.nameExpression (.simpleName "c")) (.nameExpression (.simpleName "d")))

theorem Tree.comparedBoth_overNames : comparedBoth.OverNames :=
  .binary (by decide) (.binary (by decide) (.name (by decide)) (.name (by decide)))
    (.binary (by decide) (.name (by decide)) (.name (by decide)))

/-- A table of callbacks, nested boxes, what is compared, and a function. -/
def Tree.lastingUnit : TranslationUnit :=
  .unit (.cons (.declaration ⟨⟨1, 1⟩, [], none, false⟩
      (builtinTypedef .none [.kwUnsigned, .kwLong] (.cons .callbackTable .nil)))
    (.cons (.declaration ⟨⟨2, 1⟩, [], none, false⟩ (.typeAlias "X" .nestedBoxes))
      (.cons (.declaration ⟨⟨4, 1⟩, [], none, true⟩ (.initialized .none [.kwBool] "ok" .comparedBoth))
        (.cons (.declaration ⟨⟨5, 1⟩, [], none, true⟩ (.plainFunction (.block .lastingBody [])))
          .nil)))) []

theorem Tree.LastingUnit.unit_survives_callbacks : survives ⟨4, .sameLine⟩ .lastingUnit = true := by
  have compared : (Tree.initialized .none [.kwBool] "ok" .comparedBoth).Lasting :=
    .initialized .none (by decide) (by decide) (by decide) (.overNames comparedBoth_overNames (by decide))
  have loop : (Tree.statement .erased (.whileStatement (.integerTest "1")
      (.statement .erased .breakStatement))).Unrepaired :=
    .ofNumbers (.intro rfl rfl (.repeating (by decide) (.intro rfl rfl .breaking))) rfl (by decide)
  have result : (Tree.statement .erased (.returnStatement (.present (throws 9)))).Unrepaired :=
    .returning rfl rfl (.rightNested (throws_rightNested 9))
  have body : (Tree.plainFunction (.block .lastingBody [])).Lasting :=
    .function (List.forall_mem_cons.mpr ⟨loop, List.forall_mem_singleton.mpr result⟩)
  refine Tree.LastingUnit.unit_survives (.ofLasting (List.forall_mem_cons.mpr
    ⟨⟨_, _, _, rfl, .declaresTypes callbackTable_declared⟩, List.forall_mem_cons.mpr
      ⟨⟨_, _, _, rfl, .declaresTypes nestedBoxes_declared⟩, List.forall_mem_cons.mpr
        ⟨⟨_, _, _, rfl, compared⟩, List.forall_mem_singleton.mpr ⟨_, _, _, rfl, body⟩⟩⟩⟩)) ⟨4, .sameLine⟩

/-- What is written as the operand of `sizeof` stands in parentheses, and an element of an array is read
there as a type. -/
theorem Tree.LastingUnit.sizeof_lost : ¬ ∀ (source : String) (unit : TranslationUnit)
    (options : RenderOptions), parse source = .ok unit → survives options unit = true := by
  intro all
  have lost : (parse "auto v = sizeof a[1];").toOption.map (survives .standard) = some false := by
    decide +kernel
  obtain ⟨unit, parsed, fails⟩ := Option.map_eq_some_iff.mp lost
  rw [all _ unit .standard (toOption_eq_some.mp parsed)] at fails
  cases fails

end CppSyntax
