import CppSyntax.Proofs.Lexing.Order
import CppSyntax.Proofs.Session.Resumption
import CppSyntax.Proofs.Statement.Evaluated

/-!
The layout of a source decides nothing. Two sources whose tokens have the same kinds are accepted with
the same tree, up to places and comments, or are rejected with the same error at tokens of the same
index. One thing more is seen: whether a `>` stands right before a `>` or a `>=`.
-/

namespace CppSyntax

/-- The same tokens, whatever stands between them. -/
structure Token.SameText (tokens others : List Token) : Prop where
  kinds : tokens.map Token.kind = others.map Token.kind
  joint : ∀ (i : Nat) (token other next : Token), tokens[i]? = some token → others[i]? = some other →
    tokens[i + 1]? = some next → token.kind.Joins next.kind → token.joint = other.joint

instance (first second : TokenKind) : Decidable (first.Joins second) := by
  unfold TokenKind.Joins
  infer_instance

instance sameText_decidable (tokens others : List Token) : Decidable (Token.SameText tokens others) :=
  decidable_of_iff (tokens.map Token.kind = others.map Token.kind ∧ ∀ i < tokens.length,
      ∀ token ∈ tokens[i]?, ∀ other ∈ others[i]?, ∀ next ∈ tokens[i + 1]?,
        token.kind.Joins next.kind → token.joint = other.joint)
    ⟨fun ⟨kinds, joint⟩ => ⟨kinds, fun i token other next here there later =>
        joint i (List.getElem?_eq_some_iff.mp here).1 token here other there next later⟩,
      fun same => ⟨same.kinds, fun i _ token here other there next later =>
        same.joint i token other next here there later⟩⟩

theorem Token.SameText.kind_eq {tokens others : List Token} (same : SameText tokens others) {i : Nat}
    {token other : Token} (left : tokens[i]? = some token) (right : others[i]? = some other) :
    token.kind = other.kind := by
  have kinds := congrArg (·[i]?) same.kinds
  simpa [left, right] using kinds

theorem Token.SameText.length_eq {tokens others : List Token} (same : SameText tokens others) :
    tokens.length = others.length := by
  simpa using congrArg List.length same.kinds

namespace Likeness

variable {tokens others : List Token}

/-- The tokens of one text beside those of the other one. -/
def bare (same : Token.SameText tokens others) (ordered : Token.InOrder tokens)
    (ordered' : Token.InOrder others)
    (ended : ∀ token, tokens.getLast? = some token → token.kind = .endOfFile) : Likeness where
  detail := .bare
  passed := []
  pairs := tokens.zip others
  alike pair member := by
    obtain ⟨i, found⟩ := List.mem_iff_getElem?.mp member
    obtain ⟨left, right⟩ := List.getElem?_zip_eq_some.mp found
    exact same.kind_eq left right
  joint before pair next rest whole joins := by
    have here : (tokens.zip others)[before.length]? = some pair := by rw [whole]; simp
    have there : (tokens.zip others)[before.length + 1]? = some next := by rw [whole]; simp
    obtain ⟨left, right⟩ := List.getElem?_zip_eq_some.mp here
    obtain ⟨left', right'⟩ := List.getElem?_zip_eq_some.mp there
    rw [← same.kind_eq left right, ← same.kind_eq left' right'] at joins
    exact same.joint _ _ _ _ left right left' joins
  order pair member other member' := by
    obtain ⟨i, found⟩ := List.mem_iff_getElem?.mp member
    obtain ⟨j, found'⟩ := List.mem_iff_getElem?.mp member'
    obtain ⟨left, right⟩ := List.getElem?_zip_eq_some.mp found
    obtain ⟨left', right'⟩ := List.getElem?_zip_eq_some.mp found'
    rw [Bool.eq_iff_iff, ordered.before_iff left left', ordered'.before_iff right right']
  ended pair last := by
    rw [List.getLast?_eq_getElem?] at last
    obtain ⟨left, right⟩ := List.getElem?_zip_eq_some.mp last
    rw [List.length_zip, ← same.length_eq, Nat.min_self, ← List.getLast?_eq_getElem?] at left
    rw [List.length_zip, ← same.length_eq, Nat.min_self] at right
    rw [List.getLast?_eq_getElem?] at left
    rw [← same.kind_eq left right]
    exact ended _ (List.getLast?_eq_getElem? .. ▸ left)

variable (same : Token.SameText tokens others) (ordered : Token.InOrder tokens)
  (ordered' : Token.InOrder others)
  (ended : ∀ token, tokens.getLast? = some token → token.kind = .endOfFile)

theorem bare_meets (known : List String) (nonempty : tokens ≠ []) :
    (bare same ordered ordered' ended).Meets (.fresh known tokens) (.start known others) := by
  cases tokens with
  | nil => exact absurd rfl nonempty
  | cons first rest =>
    cases others with
    | nil => exact absurd same.length_eq nofun
    | cons other rest' =>
      have lengths : rest.length = rest'.length := Nat.succ.inj same.length_eq
      refine ⟨?_, ⟨⟨[], (first, other), rest.zip rest', rfl⟩, rfl, rfl, ?_, nofun⟩, fun _ => Iff.rfl⟩
      · show first :: rest = [] ++ first :: (rest.zip rest').map Prod.fst
        rw [List.map_fst_zip (Nat.le_of_eq lengths)]
        rfl
      · show rest' = (rest.zip rest').map Prod.snd
        rw [List.map_snd_zip (Nat.le_of_eq lengths.symm)]

/-- Errors at tokens of one index. -/
theorem Reports.index_of_bare {same : Token.SameText tokens others}
    {ordered : Token.InOrder tokens} {ordered' : Token.InOrder others}
    {ended : ∀ token, tokens.getLast? = some token → token.kind = .endOfFile}
    {error fault : SyntaxError}
    (reports : (bare same ordered ordered' ended).Reports error fault) :
    ∃ (i : Nat) (token other : Token), tokens[i]? = some token ∧ others[i]? = some other ∧
      error.location = token.location ∧ fault.location = other.location := by
  obtain ⟨pair, member, left, right⟩ := reports.place
  obtain ⟨i, found⟩ := List.mem_iff_getElem?.mp member
  obtain ⟨here, there⟩ := List.getElem?_zip_eq_some.mp found
  exact ⟨i, pair.1, pair.2, here, there, left, right⟩

end Likeness

theorem Token.ended_of_source {source : String} {tokens : List Token}
    (lexed : Token.ofSource source = .ok tokens) :
    ∀ token, tokens.getLast? = some token → token.kind = .endOfFile := by
  obtain ⟨front, last, rfl, ended⟩ := Token.ofSource_ended lexed
  simpa using ended

section

variable {first second : String} {tokens others : List Token}
  (left : Token.ofSource first = .ok tokens) (right : Token.ofSource second = .ok others)
  (same : Token.SameText tokens others)

/-- The tokens of two sources side by side. -/
def Likeness.ofSources : Likeness :=
  .bare same (Token.ofSource_inOrder left) (Token.ofSource_inOrder right) (Token.ended_of_source left)

/-- A parser reads the same of both sources. -/
theorem run_of_sameText [Viewed α] (names : List String)
    (routine : Grammar Routine → Routine α) (parser : Grammar Parser → Parser α)
    (mirrors : ∀ (L : Likeness) (fuel : Nat),
      Mirrors L false (routine (.ofFuel fuel)) (parser (.ofFuel fuel)))
    (answers : ∀ supply : Supply,
      AnswersAt supply 16 Never (.start names tokens) (parser supply.grammar) ∧
        AnswersAt supply 16 Never (.start names others) (parser supply.grammar))
    (eq : ∀ value other : α, Same .whole value other → value = other) :
    MirrorsBy.Tried (Likeness.ofSources left right same) (Same .bare · ·)
      (Reader.run parser (.start names tokens)).1 (Reader.run parser (.start names others)).1 := by
  have nonempty : tokens ≠ [] := by
    obtain ⟨front, last, whole, _⟩ := Token.ofSource_ended left
    simp [whole]
  have stands : (Session.fresh names tokens).Stands :=
    ⟨List.length_pos_iff.mpr nonempty, Token.ended_of_source left⟩
  have idle := Session.Idle.of_fresh stands
  -- A session reads the first source, beside a reader of the same source and one of the other.
  have itself := ((Likeness.exact_meets stands (State.tokens_start nonempty names) fun ident => by
    rw [← Session.state_typeNames]; rfl).run_exact idle.context routine parser (mirrors _)
      (fun supply => (answers supply).1) eq).1
  have meets := Likeness.bare_meets same (Token.ofSource_inOrder left)
    (Token.ofSource_inOrder right) (Token.ended_of_source left) names nonempty
  have tried := (meets.run idle.context routine parser (mirrors _) fun supply => (answers supply).2).1
  rw [itself] at tried
  exact tried

end

theorem parse_tried {first second : String} {tokens others : List Token}
    (left : Token.ofSource first = .ok tokens) (right : Token.ofSource second = .ok others)
    (same : Token.SameText tokens others) :
    MirrorsBy.Tried (Likeness.ofSources left right same) (Same .bare · ·) (parse first)
      (parse second) := by
  have tried := run_of_sameText left right same (libraryTypeNames ++ []) Grammar.translationUnit
    Grammar.translationUnit (fun _ _ => inferInstance) (fun _ => ⟨.anywhere, .anywhere⟩)
    fun _ _ => Tree.eq_of_same
  have here : parse first = (Reader.run Grammar.translationUnit
      (.start (libraryTypeNames ++ []) tokens)).1 := by
    rw [parse, Reader.ofSource, left]
    rfl
  have there : parse second = (Reader.run Grammar.translationUnit
      (.start (libraryTypeNames ++ []) others)).1 := by
    rw [parse, Reader.ofSource, right]
    rfl
  rwa [← here, ← there] at tried

/-- Sources with the same tokens are read alike. -/
theorem parse_of_sameText {first second : String} {tokens others : List Token}
    (left : Token.ofSource first = .ok tokens) (right : Token.ofSource second = .ok others)
    (same : Token.SameText tokens others) :
    (∃ unit other, parse first = .ok unit ∧ parse second = .ok other ∧
      unit.without .layout = other.without .layout) ∨
    ∃ error fault, parse first = .error error ∧ parse second = .error fault ∧
      error.expected = fault.expected ∧ error.found = fault.found ∧
      ∃ (i : Nat) (token other : Token), tokens[i]? = some token ∧ others[i]? = some other ∧
        error.location = token.location ∧ fault.location = other.location := by
  have tried := parse_tried left right same
  revert tried
  cases parse first <;> cases parse second <;> intro tried
  case ok.ok unit other => exact .inl ⟨unit, other, rfl, rfl, tried.eq⟩
  case error.error error fault =>
    exact .inr ⟨error, fault, rfl, rfl, tried.expected, tried.found, tried.index_of_bare⟩
  all_goals exact tried.elim

/-- A shift, closed template arguments and a comparison, written with and without layout. -/
theorem parse_of_sameText_spread : ∃ tokens others unit other,
    Token.ofSource "T<U<int>>a=b>>1; // c" = .ok tokens ∧
      Token.ofSource "T /* x */<U\n\n< int >>a =\n// y\nb >>1;" = .ok others ∧
      Token.SameText tokens others ∧ tokens ≠ others ∧
      parse "T<U<int>>a=b>>1; // c" = .ok unit ∧
      parse "T /* x */<U\n\n< int >>a =\n// y\nb >>1;" = .ok other ∧
      unit.without .layout = other.without .layout := by
  have computed : ((Token.ofSource "T<U<int>>a=b>>1; // c").toOption.bind fun tokens =>
      (Token.ofSource "T /* x */<U\n\n< int >>a =\n// y\nb >>1;").toOption.map fun others =>
        decide (Token.SameText tokens others ∧ tokens ≠ others)) = some true := by
    decide +kernel
  have accepted : (parse "T<U<int>>a=b>>1; // c").toBool = true := by decide +kernel
  obtain ⟨tokens, first, rest⟩ := Option.bind_eq_some_iff.mp computed
  obtain ⟨others, second, compared⟩ := Option.map_eq_some_iff.mp rest
  have left := toOption_eq_some.mp first
  have right := toOption_eq_some.mp second
  obtain ⟨same, different⟩ := of_decide_eq_true compared
  rcases parse_of_sameText left right same with
    ⟨unit, other, here, there, equal⟩ | ⟨error, _, rejected, _⟩
  · exact ⟨tokens, others, unit, other, left, right, same, different, here, there, equal⟩
  · rw [rejected] at accepted
    cases accepted

namespace Token

theorem SameText.of_glyphs {tokens others : List Token}
    (same : tokens.map glyph = others.map glyph) : SameText tokens others where
  kinds := by
    have kinds := congrArg (List.map Glyph.kind) same
    rw [List.map_map, List.map_map] at kinds
    exact kinds
  joint i token other _ here there _ _ := by
    have glyphs := congrArg (·[i]?) same
    simp only [List.getElem?_map, here, there, Option.map_some, Option.some.injEq] at glyphs
    exact congrArg Glyph.joint glyphs

/-- Either both sources have the same tokens, or neither can be read. -/
theorem glyphsOf_eq_iff {first second : String} (same : glyphsOf first = glyphsOf second) :
    (∃ tokens others, ofSource first = .ok tokens ∧ ofSource second = .ok others ∧
      tokens.map glyph = others.map glyph) ∨
    ∃ error fault, ofSource first = .error error ∧ ofSource second = .error fault := by
  unfold glyphsOf at same
  cases left : ofSource first with
  | error error =>
    rw [left] at same
    cases right : ofSource second with
    | error fault => exact .inr ⟨error, fault, rfl, rfl⟩
    | ok others => rw [right] at same; cases same
  | ok tokens =>
    rw [left] at same
    cases right : ofSource second with
    | error fault => rw [right] at same; cases same
    | ok others =>
      rw [right] at same
      exact .inl ⟨tokens, others, rfl, rfl, Option.some.inj same⟩

end Token

theorem Tree.isDeclarationStatement_without (erasure : Erasure) (statement : Statement) :
    (statement.without erasure).isDeclarationStatement = statement.isDeclarationStatement := by
  cases statement with
  | statement place form => cases form <;> rfl

theorem readsAsDeclaration_eq (text : String) (known : List String) :
    readsAsDeclaration text known = (Reader.ofSource text known).toOption.any fun start =>
      (Reader.statement start).1.toOption.any Tree.isDeclarationStatement := by
  unfold readsAsDeclaration
  cases Reader.ofSource text known with
  | error error => rfl
  | ok start =>
    rw [show (Except.ok start).toOption = some start from rfl, Option.any_some]
    dsimp only
    cases (Reader.statement start).1 with
    | error error => rfl
    | ok statement =>
      cases statement with
      | statement place form => cases form <;> rfl

section

variable {first second : String} (same : Token.glyphsOf first = Token.glyphsOf second)
  (known : List String)

include same

theorem readsAsDeclaration_of_glyphs :
    readsAsDeclaration first known = readsAsDeclaration second known := by
  rw [readsAsDeclaration_eq, readsAsDeclaration_eq, Reader.ofSource, Reader.ofSource]
  rcases Token.glyphsOf_eq_iff same with ⟨tokens, others, left, right, glyphs⟩ | ⟨_, _, left, right⟩
  · rw [left, right]
    have tried := run_of_sameText left right (.of_glyphs glyphs) (libraryTypeNames ++ known)
      Grammar.statement Grammar.statement (fun _ _ => inferInstance) (fun _ => ⟨.anywhere, .anywhere⟩)
      fun _ _ => Tree.eq_of_same
    show Option.any _ (Except.toOption (Reader.run _ _).1) =
      Option.any _ (Except.toOption (Reader.run _ _).1)
    revert tried
    cases (Reader.run Grammar.statement (.start (libraryTypeNames ++ known) tokens)).1 <;>
      cases (Reader.run Grammar.statement (.start (libraryTypeNames ++ known) others)).1 <;> intro tried
    case ok.ok statement other =>
      have erased : statement.without .layout = other.without .layout := tried.eq
      show statement.isDeclarationStatement = other.isDeclarationStatement
      rw [← Tree.isDeclarationStatement_without .layout, erased, Tree.isDeclarationStatement_without]
    case error.error => rfl
    all_goals exact tried.elim
  · rw [left, right]
    rfl

theorem readsAsParameterList_of_glyphs (opens : first.toList.head? = some '(')
    (opens' : second.toList.head? = some '(') :
    readsAsParameterList first known = readsAsParameterList second known := by
  have atStart {text : String} (opens : text.toList.head? = some '(') {tokens : List Token}
      (read : Token.ofSource text = .ok tokens) (names : List String) :
      (State.start names tokens).atEnd = false := by
    have evaluates : Text.opensEvaluation text.toList = true := by
      obtain ⟨rest, spelled⟩ := List.head?_eq_some_iff.mp opens
      rw [spelled]
      rfl
    have starts := Token.startsEvaluation_of_opens evaluates read names
    unfold State.atEnd
    rcases starts with literal | ⟨mark, isMark, _⟩
    · cases kind : (State.start names tokens).kind <;>
        first
        | rfl
        | (rw [kind] at literal; cases literal)
    · rw [isMark]
      rfl
  unfold readsAsParameterList Reader.ofSource
  rcases Token.glyphsOf_eq_iff same with ⟨tokens, others, left, right, glyphs⟩ | ⟨_, _, left, right⟩
  · rw [left, right]
    have tried := run_of_sameText left right (.of_glyphs glyphs) (libraryTypeNames ++ known)
      Grammar.parameterListAhead Grammar.parameterListAhead (fun _ _ => inferInstance)
      (fun _ => ⟨Grammar.parameterListAhead_at (atStart opens left _),
        Grammar.parameterListAhead_at (atStart opens' right _)⟩) fun _ _ same => same.eq
    dsimp only
    revert tried
    cases (Reader.run Grammar.parameterListAhead (.start (libraryTypeNames ++ known) tokens)).1 <;>
      cases (Reader.run Grammar.parameterListAhead (.start (libraryTypeNames ++ known) others)).1 <;>
      intro tried
    case ok.ok ahead other => exact tried.eq
    case error.error => rfl
    all_goals exact tried.elim
  · rw [left, right]

/-- A text is accepted with the same tree as another one in which its tokens are laid out differently. -/
theorem parse_of_glyphs : (parse first).toOption.map (·.without .layout) =
    (parse second).toOption.map (·.without .layout) := by
  rcases Token.glyphsOf_eq_iff same with ⟨tokens, others, left, right, glyphs⟩ | ⟨_, _, left, right⟩
  · have tried := parse_tried left right (.of_glyphs glyphs)
    revert tried
    cases parse first <;> cases parse second <;> intro tried
    case ok.ok => exact congrArg some tried.eq
    case error.error => rfl
    all_goals exact tried.elim
  · rw [parse, parse, Reader.ofSource, Reader.ofSource, left, right]
    rfl

end

end CppSyntax
