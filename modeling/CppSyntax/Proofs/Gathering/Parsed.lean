import CppSyntax.Proofs.Gathering.Comments
import CppSyntax.Proofs.Gathering.Nesting
import CppSyntax.Proofs.Gathering.Grammar.Statement
import CppSyntax.Proofs.Parsing.Fuel
import Mathlib.Data.Multiset.Count

/-!
Every unit that a text is read as is gathered from its tokens, one after the other. So it keeps their
order, holds no comment more often than they do, and is nested no deeper than is allowed.
-/

set_option synthInstance.maxSize 4096

namespace CppSyntax

namespace Grammar

/-- Every rule over a gathering grammar gathers what it reads. -/
theorem rule_gathers {g : Grammar Parser} [g.Gathering] (symbol : Symbol) :
    symbol.Gathering (g.rule symbol) := by
  cases symbol with
  | declaration scope => exact (inferInstance : Rows (g.declarationRule scope))
  | statement => exact (inferInstance : Rows g.statementRule)
  | clause => exact (inferInstance : Collects g.clauseRule)
  | assignment => exact (inferInstance : Collects g.assignmentRule)
  | binary level => exact (inferInstance : Collects (g.binaryRule level))
  | cast => exact (inferInstance : Collects g.castRule)
  | unary => exact (inferInstance : Collects g.unaryRule)
  | specifiers scope => exact (inferInstance : Collects (g.specifiersRule scope))
  | declarator mode => exact (inferInstance : Gathers [] mode.stretch piecesIn (g.declaratorRule mode))
  | name inExpression => exact (inferInstance : Finishes (g.nameRule inExpression))
  | templateParameters => exact (inferInstance : Collects g.templateParametersRule)

/-- A derivation of any depth gathers what it reads. -/
instance derive_gathering (fuel depth : Nat) : Gathering ⟨fuel, derive fuel depth⟩ := by
  induction depth with
  | zero =>
    refine ⟨fun symbol => ?_, fun _ _ _ _ _ => nofun⟩
    cases symbol <;> exact .ofAlone fun _ => nofun
  | succ depth ih => exact ⟨rule_gathers, fun scope _ _ _ => strayDeclaration_gathers scope⟩

instance ofFuel_gathering (fuel : Nat) : Gathering (ofFuel fuel) := derive_gathering fuel fuel

/-- A unit is made of its declarations and of the comments at the end of the text. -/
theorem translationUnit_gathers {g : Grammar Parser} [g.Gathering] {context : Context}
    {start reached : State} {unit : TranslationUnit} (ended : start.Ended)
    (answered : g.translationUnit context start = .done unit reached) :
    ∃ pieces, Gathered .whole context.depth start reached pieces ∧
      Remade (pieces ++ notes reached.current.leadingComments) [.part unit.node] := by
  obtain ⟨declarations, _, read, ⟨⟩⟩ := Parser.done_of_bind answered
  refine ⟨piecesIn declarations, ?_, ?_⟩
  · exact Gathers.alone (.closed .whole inferInstance : Rows _) ended read
  · rw [← piecesIn_ofList]
    exact .built (.unit (.ofList declarations) reached.current.leadingComments) rfl

end Grammar

/-- Whatever a text is read as is made of pieces that are gathered from its tokens. -/
theorem parse_gathers {source : String} {unit : TranslationUnit} (parsed : parse source = .ok unit) :
    ∃ start reached pieces, Token.ofSource source = .ok start.tokens ∧
      Gathered .whole 0 start reached pieces ∧
      Remade (pieces ++ notes reached.current.leadingComments) [.part unit.node] := by
  cases lexed : Token.ofSource source with
  | error error =>
    rw [parse, Reader.ofSource, lexed] at parsed
    cases parsed
  | ok tokens =>
    let start := State.start (libraryTypeNames ++ []) tokens
    have read : parse source = (Reader.translationUnit start).1 := by
      rw [parse, Reader.ofSource, lexed]
      rfl
    obtain ⟨front, last, whole, atEnd⟩ := Token.ofSource_ended lexed
    have same : start.tokens = tokens := State.tokens_start (by simp [whole]) _
    have ended : start.Ended := by simpa only [State.Ended, same, whole, List.getLast_concat] using atEnd
    rw [read, Reader.translationUnit, Reader.run] at parsed
    split at parsed
    · rename_i found reached reply
      cases parsed
      obtain ⟨pieces, gathered, made⟩ := Grammar.translationUnit_gathers ended reply
      exact ⟨start, reached, pieces, congrArg Except.ok same.symm, gathered, made⟩
    · cases parsed
    · cases parsed

theorem exists_parse {source : String} (read : (parse source).toOption.isSome = true) :
    ∃ unit, parse source = .ok unit :=
  have ⟨unit, found⟩ := Option.isSome_iff_exists.mp read
  ⟨unit, toOption_eq_some.mp found⟩

/-- Siblings in a unit stand one behind the other with all that is in them, and nothing stands before
what it is in. -/
theorem parse_inOrder {source : String} {unit : TranslationUnit} (parsed : parse source = .ok unit) :
    unit.node.Everywhere Node.InOrder := by
  obtain ⟨start, reached, pieces, lexed, gathered, made⟩ := parse_gathers parsed
  have row := gathered.inRow (Token.ofSource_inOrder lexed)
  rw [← List.append_nil (nodesOf pieces), ← nodesOf_notes, ← nodesOf_append] at row
  exact (made.inRow row).inOrder _ (List.mem_singleton_self _)

/-- Enumerators, members, statements and declarations of a linkage block. -/
theorem parse_inOrder_lists :
    let source := "namespace a { enum E { x, y }; struct S { void f() { int c; c = 1; } }; } extern \"C\" { int d; }"
    ∃ unit, parse source = .ok unit ∧ unit.node.Everywhere Node.InOrder :=
  have ⟨unit, parsed⟩ := exists_parse (by decide +kernel)
  ⟨unit, parsed, parse_inOrder parsed⟩

/-- The comments of a unit are among those of its text, each at most as often as there. -/
theorem parse_comments_le {source : String} {unit : TranslationUnit}
    (parsed : parse source = .ok unit) : ∃ tokens, Token.ofSource source = .ok tokens ∧
      (unit.comments : Multiset String) ≤ (tokens.flatMap Token.comments : Multiset String) := by
  obtain ⟨start, reached, pieces, lexed, gathered, made⟩ := parse_gathers parsed
  refine ⟨start.tokens, lexed, Multiset.le_iff_count.mpr fun comment => ?_⟩
  rw [Multiset.coe_count, Multiset.coe_count]
  have closing : reached.current.leadingComments.count comment ≤ reached.tally comment := by
    rw [State.tally, State.tokens, List.flatMap_cons, Token.comments, List.append_assoc,
      List.count_append]
    exact Nat.le_add_right ..
  rcases gathered.bounds comment with ⟨fresh, _⟩ | bound
  · cases fresh
  · calc unit.node.comments.count comment
      _ = tally comment [.part unit.node] := (tally_part _).symm
      _ ≤ tally comment (pieces ++ notes reached.current.leadingComments) := made.tally_le comment
      _ ≤ tally comment pieces + reached.tally comment := by rw [tally_append, tally_notes]; omega
      _ ≤ start.tally comment := bound

/-- The first comment is handed to a statement, and the last one to the function, not to its block. -/
theorem parse_comments_le_function :
    let source := "void f() { /* first */ if (a) b(); /* second */ c: /* third */ } // last"
    ∃ unit tokens, parse source = .ok unit ∧ Token.ofSource source = .ok tokens ∧
      (unit.comments : Multiset String) ≤ (tokens.flatMap Token.comments : Multiset String) :=
  have ⟨unit, parsed⟩ := exists_parse (by decide +kernel)
  have ⟨tokens, lexed, among⟩ := parse_comments_le parsed
  ⟨unit, tokens, parsed, lexed, among⟩

/-- No way down into a unit meets more declarations and statements than levels are allowed. -/
theorem parse_levels_le {source : String} {unit : TranslationUnit} (parsed : parse source = .ok unit)
    {inner : Node} {count : Nat} (descends : unit.node.Descends inner count) : count ≤ Parser.nestingLimit := by
  obtain ⟨start, reached, pieces, lexed, gathered, made⟩ := parse_gathers parsed
  have fit : ∀ piece ∈ pieces ++ notes reached.current.leadingComments, piece.Fits 0 :=
    List.forall_mem_append.mpr ⟨gathered.fits (Nat.zero_le _), notes_fit _ _⟩
  have bound := made.fits (Nat.zero_le _) fit _ (List.mem_singleton_self _) inner count descends
  omega

/-- A member of a local class in a block in a lambda, behind an `if` and in a namespace. -/
theorem parse_levels_le_member :
    let source := "namespace a { auto f = [] { if (x) { struct S { int b; }; } }; }"
    ∃ unit inner, parse source = .ok unit ∧ unit.node.Descends inner 7 ∧ 7 ≤ Parser.nestingLimit := by
  intro source
  have counted : (parse source).toOption.map (Node.levelsWithin 30 ·.node) = some 7 := by decide +kernel
  obtain ⟨unit, found, seven⟩ := Option.map_eq_some_iff.mp counted
  obtain ⟨inner, descends⟩ := Node.exists_descends 30 unit.node
  rw [seven] at descends
  have parsed := toOption_eq_some.mp found
  exact ⟨unit, inner, parsed, descends, parse_levels_le parsed descends⟩

end CppSyntax
