import CppSyntax.Proofs.Declarator.Suffixes
import CppSyntax.Proofs.Expression.Combination

/-!
Tokens that no expression starts with, and casts in parentheses. A rule that refuses a token hands its
refusal on to every looser rule. Every parenthesis is tried as the start of a cast first: what stands in it is
read as a type if it can be, and what holds an expression must refuse to be one.
-/

namespace CppSyntax

open CppSyntax.Parser Grammar

/-- A rule gives no value before these tokens, as long as a bare `>` is an operator. -/
def RuleRefuses (rule : Grammar Parser → Parser α) (glyphs : List Glyph) : Prop :=
  ∀ g : Grammar Parser, g.IsDerived → ∀ context : Context, context.inTemplateArguments = false →
    (rule g).Refuses context glyphs

namespace RuleRefuses

variable {first : Glyph} {rest glyphs : List Glyph}

theorem postfixed (refuses : RuleRefuses (fun g => g.primary) glyphs) :
    RuleRefuses (fun g => g.postfixed) glyphs :=
  fun g derived context plain => Refuses.bind (refuses g derived context plain)

theorem cast (noParen : first.kind ≠ .punctuator .leftParen)
    (refuses : RuleRefuses (fun g => g.unary) (first :: rest)) :
    RuleRefuses (fun g => g.cast) (first :: rest) := by
  intro g derived context plain
  refine derived.symbol .cast fun inner innerDerived => ?_
  refine .nested False.elim (.byPlace fun state known => ?_)
  have other : state.isAt .leftParen = false := by
    simpa [State.isAt_of_glyphs known] using noParen
  rw [other]
  exact refuses inner innerDerived _ plain

theorem binary {level : Nat} (refuses : RuleRefuses (fun g => g.cast) glyphs) :
    RuleRefuses (fun g => g.binary level) glyphs :=
  fun _ derived context plain => derived.symbol (.binary level) fun inner innerDerived =>
    Refuses.bind (refuses inner innerDerived context plain)

theorem assignment (noThrow : first.kind ≠ .keyword .kwThrow)
    (refuses : RuleRefuses (fun g => g.binary Precedence.logicalOr) (first :: rest)) :
    RuleRefuses (fun g => g.assignment) (first :: rest) := by
  intro g derived context plain
  refine derived.symbol .assignment fun inner innerDerived => ?_
  refine (Reads.missingWord noThrow).andThen ?_
  exact Refuses.bind (Refuses.bind (refuses inner innerDerived context plain))

theorem expression (refuses : RuleRefuses (fun g => g.assignment) glyphs) :
    RuleRefuses (fun g => g.expression) glyphs :=
  fun g derived context plain => Refuses.bind (refuses g derived context plain)

theorem bracketed (refuses : RuleRefuses (fun g => g.expression) glyphs) :
    RuleRefuses (fun g => g.bracketed) glyphs :=
  fun g derived _ _ => Reads.angleCloses (refuses g derived _ rfl)

/-- Where no operand can start, no expression can. -/
theorem of_unary (noParen : first.kind ≠ .punctuator .leftParen)
    (noThrow : first.kind ≠ .keyword .kwThrow)
    (refuses : RuleRefuses (fun g => g.unary) (first :: rest)) :
    RuleRefuses (fun g => g.assignment) (first :: rest) :=
  (refuses.cast noParen).binary.assignment noThrow

/-- An operand cannot start with an ellipsis. -/
theorem unary_ellipsis {joint : Bool} :
    RuleRefuses (fun g => g.unary) (⟨.punctuator .ellipsis, joint⟩ :: rest) := by
  intro g derived context plain
  refine derived.symbol .unary fun inner innerDerived => .byPlace fun state known => ?_
  rw [State.kind_of_glyphs known]
  refine Refuses.bind (.byPlace fun state known => ?_)
  rw [State.kind_of_glyphs known]
  exact Refuses.fail _

theorem ellipsis {joint : Bool} :
    RuleRefuses (fun g => g.assignment) (⟨.punctuator .ellipsis, joint⟩ :: rest) :=
  of_unary (by simp) (by simp) unary_ellipsis

end RuleRefuses

section

variable {first : Glyph} {rest : List Glyph} {context : Context} {g : Grammar Parser}

/-- What starts with this token is no type. -/
def TokenKind.startsNoType : TokenKind → Bool
  | .identifier _ => false
  | .keyword word => [.kwThis, .kwTrue, .kwFalse, .kwNullptr, .kwThrow, .kwSizeof].contains word
  | .punctuator mark => mark != .scope && mark != .leftBracket
  | _ => true

theorem specifiers_reads_nothing {scope : Scope} (noType : first.kind.startsNoType = true)
    (derived : g.IsDerived) :
    (g.specifiers scope).Reads context False (first :: rest)
      (· = ⟨[], [], [], none, false, false⟩) (first :: rest) := by
  refine derived.symbol (.specifiers scope) fun inner _ => ?_
  have step : (inner.specifierStep scope .empty).Reads context False (first :: rest)
      (· = .inr .empty) (first :: rest) := by
    refine .byPlace fun state known => ?_
    have noAttribute : state.atAttribute = false := by
      have noBracket : first.kind ≠ .punctuator .leftBracket := by
        intro bracket
        rw [bracket] at noType
        cases noType
      simp [State.atAttribute, State.isAt_of_glyphs known, noBracket]
    rw [State.kind_of_glyphs known, noAttribute]
    cases kind : first.kind with
    | identifier ident =>
      rw [kind] at noType
      cases noType
    | keyword word =>
      rw [kind] at noType
      cases word <;> first | cases noType; done | exact .byPlace fun _ _ => .pure rfl
    | punctuator mark =>
      rw [kind] at noType
      cases mark <;> first | cases noType; done | exact .pure rfl
    | _ => exact .pure rfl
  have loop : (inner.loop (inner.specifierStep scope) .empty).Reads context False (first :: rest)
      (· = .empty) (first :: rest) := .stopWith step inner.fuel
  exact loop.andThen (.pure rfl)

theorem certainTypeId_refuses (noType : first.kind.startsNoType = true) (derived : g.IsDerived) :
    g.certainTypeId.Refuses context (first :: rest) := by
  refine Refuses.bind (.byPlace fun state known => ?_)
  exact (specifiers_reads_nothing noType derived).andThen (Refuses.fail _)

/-- What can be no type is not read as one between parentheses. -/
theorem parenthesizedType_refuses {joint : Bool} (noType : first.kind.startsNoType = true)
    (derived : g.IsDerived) :
    g.parenthesizedType.Refuses context (⟨.punctuator .leftParen, joint⟩ :: first :: rest) := by
  refine Refuses.behind (Reads.expect (List.cons_ne_nil _ _) rfl) fun _ _ => ?_
  exact Refuses.bind (.angleCloses (certainTypeId_refuses noType derived))

theorem NoCast.of_start {joint : Bool} (noType : first.kind.startsNoType = true) :
    NoCast (⟨.punctuator .leftParen, joint⟩ :: first :: rest) := by
  intro g derived context
  refine Refuses.behind (Reads.expect (List.cons_ne_nil _ _) rfl) fun _ _ => ?_
  exact Refuses.bind (.angleCloses (certainTypeId_refuses noType derived))

end

section

variable {words : List Keyword} {type rest : List Glyph} {closing : Glyph} {sure : Prop}
  {context : Context} {g : Grammar Parser}

/-- A builtin type is read by the words that spell it. -/
theorem certainTypeSpecifier_reads {cv : Qualifiers} (spelled : SpellWords (cv.before words) type)
    (builtin : ∀ word ∈ words, word.isBuiltinType = true) (nonempty : words ≠ [])
    (closes : closing.kind = .punctuator .rightParen) (derived : g.IsDerived) :
    g.certainTypeSpecifier.Reads context sure (type ++ closing :: rest)
      (· = (.builtinType cv (words.map Keyword.spelling), true)) (closing :: rest) := by
  refine .byPlace fun state known => ?_
  exact (specifiers_reads spelled builtin nonempty (.inl closes) derived).andThen (.pure rfl)

theorem certainTypeId_reads {cv : Qualifiers} (spelled : SpellWords (cv.before words) type)
    (builtin : ∀ word ∈ words, word.isBuiltinType = true) (nonempty : words ≠ [])
    (closes : closing.kind = .punctuator .rightParen) (derived : g.IsDerived)
    (allowed : sure → context.depth < nestingLimit) :
    g.certainTypeId.Reads context sure (type ++ closing :: rest)
      (· = (Tree.builtin cv words, true)) (closing :: rest) := by
  refine (certainTypeSpecifier_reads spelled builtin nonempty closes derived).andThen ?_
  obtain ⟨_, joint⟩ := closing
  obtain rfl := closes
  have ends : EndsDeclarator (⟨.punctuator .rightParen, joint⟩ :: rest) := ⟨_, _, _, rfl, by decide⟩
  have nothing : (g.declarator .unnamed).Reads context sure (⟨.punctuator .rightParen, joint⟩ :: rest)
      (· = Tree.plainDeclarator) (⟨.punctuator .rightParen, joint⟩ :: rest) :=
    pointersOnly_read .nil .nil ends derived allowed
  exact nothing.andThen (.pure rfl)

/-- Whatever an operand may start with, a cast may stand before it. -/
theorem TokenKind.followsCast_of_start {kind : TokenKind} (starts : kind.startsExpression = true)
    (noThrow : kind ≠ .keyword .kwThrow) : kind.followsCast true = true := by
  cases kind with
  | keyword word => cases word <;> first | rfl | exact absurd rfl noThrow | cases starts
  | punctuator mark => cases mark <;> first | rfl | cases starts
  | integer => rfl
  | identifier => rfl
  | _ => cases starts

theorem castHead_reads {cv : Qualifiers} {opened closed : Bool} {first : Glyph}
    (spelled : SpellWords (cv.before words) type)
    (builtin : ∀ word ∈ words, word.isBuiltinType = true) (nonempty : words ≠ [])
    (starts : first.kind.startsExpression = true) (noThrow : first.kind ≠ .keyword .kwThrow)
    (derived : g.IsDerived) (allowed : sure → context.depth < nestingLimit) :
    g.castHead.Reads context sure
      (⟨.punctuator .leftParen, opened⟩ :: (type ++ ⟨.punctuator .rightParen, closed⟩ :: first :: rest))
      (· = Tree.builtin cv words) (first :: rest) := by
  refine (Reads.expect (by simp) rfl).bind fun _ _ => ?_
  have target : g.certainTypeId.Reads { context with inTemplateArguments := false } sure
      (type ++ ⟨.punctuator .rightParen, closed⟩ :: first :: rest)
      (· = (Tree.builtin cv words, true)) (⟨.punctuator .rightParen, closed⟩ :: first :: rest) :=
    certainTypeId_reads spelled builtin nonempty rfl derived allowed
  refine (Reads.angleCloses target).andThen ?_
  refine (Reads.expect (List.cons_ne_nil _ _) rfl).bind fun _ _ => ?_
  refine .byPlace fun state known => ?_
  rw [State.kind_of_glyphs known, TokenKind.followsCast_of_start starts noThrow]
  exact .pure rfl

private theorem front_word {cv : Qualifiers} (spelled : SpellWords (cv.before words) type)
    (builtin : ∀ word ∈ words, word.isBuiltinType = true) (nonempty : words ≠ []) :
    ∃ word joint tail, type = ⟨.keyword word, joint⟩ :: tail ∧ word.isTypeWord = true := by
  obtain ⟨word, others, front⟩ := exists_first_word cv nonempty
  have member : word ∈ cv.before words := by simp [front]
  rw [front, SpellWords, List.map_cons, List.map_eq_cons_iff] at spelled
  obtain ⟨⟨_, joint⟩, tail, rfl, rfl, _⟩ := spelled
  exact ⟨word, joint, tail, rfl, isTypeWord_of_mem_before builtin word member⟩

theorem functionalCast_refuses {cv : Qualifiers} (spelled : SpellWords (cv.before words) type)
    (builtin : ∀ word ∈ words, word.isBuiltinType = true) (nonempty : words ≠ [])
    (closes : closing.kind = .punctuator .rightParen) (derived : g.IsDerived) :
    g.functionalCast.Refuses context (type ++ closing :: rest) := by
  have read : g.typeSpecifier.Reads context False (type ++ closing :: rest) (fun _ => True)
      (closing :: rest) :=
    (certainTypeSpecifier_reads spelled builtin nonempty closes derived).andThen (.pure trivial)
  refine Refuses.behind read fun _ _ => .byPlace fun state known => ?_
  rw [State.isAt_of_glyphs known, closes]
  refine Refuses.bind ?_
  exact (Reads.missing (by simp [closes])).andThen (Refuses.fail _)

/-- A type without an operand is no expression. -/
theorem RuleRefuses.ofType {cv : Qualifiers} (spelled : SpellWords (cv.before words) type)
    (builtin : ∀ word ∈ words, word.isBuiltinType = true) (nonempty : words ≠ [])
    (closes : closing.kind = .punctuator .rightParen) :
    RuleRefuses (fun g => g.assignment) (type ++ closing :: rest) := by
  have functional : RuleRefuses (fun g => g.functionalCast) (type ++ closing :: rest) :=
    fun g derived _ _ => functionalCast_refuses spelled builtin nonempty closes derived
  obtain ⟨word, joint, tail, rfl, isWord⟩ := front_word spelled builtin nonempty
  have primary : RuleRefuses (fun g => g.primary)
      (⟨.keyword word, joint⟩ :: (tail ++ closing :: rest)) := by
    intro g derived context plain
    refine .byPlace fun state known => ?_
    rw [State.kind_of_glyphs known]
    have refused := functional g derived context plain
    cases word <;> first | cases isWord; done | exact refused | exact Refuses.fail _
  refine RuleRefuses.of_unary (by simp) ?_ fun g derived context plain => ?_
  · rintro same
    cases same
    cases isWord
  · refine derived.symbol .unary fun inner innerDerived => .byPlace fun state known => ?_
    rw [State.kind_of_glyphs known]
    have refused := primary.postfixed inner innerDerived context plain
    cases word <;> first | cases isWord; done | exact refused

private theorem unary_refuses {cv : Qualifiers} {opened closed : Bool}
    (spelled : SpellWords (cv.before words) type)
    (builtin : ∀ word ∈ words, word.isBuiltinType = true) (nonempty : words ≠ [])
    (bracketed : Bracketed (· ≠ .punctuator .ellipsis) type) :
    RuleRefuses (fun g => g.unary)
      (⟨.punctuator .leftParen, opened⟩ :: (type ++ ⟨.punctuator .rightParen, closed⟩ :: rest)) := by
  intro g derived context plain
  refine derived.symbol .unary fun inner innerDerived => .byPlace fun state known => ?_
  rw [State.kind_of_glyphs known]
  refine Refuses.bind (.byPlace fun state known => ?_)
  rw [State.kind_of_glyphs known]
  refine (Reads.advance (by simp) (by simp)).bind fun _ _ => .byPlace fun state known => ?_
  have noFold : foldsAhead 0 none (state.current :: state.following) = false := by
    rw [foldsAhead_of_glyphs, show (state.current :: state.following).map Token.glyph = _ from known]
    exact Glyph.foldsAhead_group bracketed rfl
  rw [noFold]
  have refused : RuleRefuses (fun g => g.assignment)
      (type ++ ⟨.punctuator .rightParen, closed⟩ :: rest) :=
    .ofType spelled builtin nonempty rfl
  refine Reads.andThen (.pure rfl) ?_
  exact Refuses.bind (refused.expression.bracketed inner innerDerived context plain)

private theorem bracketed_words (spelled : SpellWords words type) :
    Bracketed (· ≠ .punctuator .ellipsis) type := by
  induction words generalizing type with
  | nil =>
    rw [SpellWords, List.map_nil, List.map_eq_nil_iff] at spelled
    subst spelled
    exact .nil
  | cons word words ih =>
    rw [SpellWords, List.map_cons, List.map_eq_cons_iff] at spelled
    obtain ⟨⟨_, joint⟩, tail, rfl, rfl, later⟩ := spelled
    exact .token rfl rfl (by simp) (by simp) (ih later)

theorem ReadsAs.typeCast {level nest : Nat} {value : Expr} {glyphs : List Glyph} {cv : Qualifiers}
    {opened closed : Bool} (spelled : SpellWords (cv.before words) type)
    (builtin : ∀ word ∈ words, word.isBuiltinType = true) (nonempty : words ≠ [])
    (tight : Precedence.unary ≤ level) (reads : ReadsAs level nest value glyphs rest) :
    ReadsAs Precedence.unary (nest + 1) (.cast .parenthesized (Tree.builtin cv words) value)
      (⟨.punctuator .leftParen, opened⟩ :: (type ++ ⟨.punctuator .rightParen, closed⟩ :: glyphs))
      rest := by
  have noThrow := reads.noThrow (Nat.le_trans (by decide) tight)
  refine ofCast reads.more ?_ ⟨_, _, rfl, rfl⟩ (by simp) fun loose => ?_
  · obtain ⟨front, rfl, bracketed⟩ := reads.front
    refine ⟨⟨.punctuator .leftParen, opened⟩ :: (type ++ ⟨.punctuator .rightParen, closed⟩ :: front),
      by simp, .group rfl rfl ?_ bracketed⟩
    exact (bracketed_words spelled).mono fun _ _ => trivial
  · intro g derived sure context room
    refine derived.symbol .cast fun inner innerDerived => ?_
    refine .nested room.fits (.byPlace fun state known => ?_)
    have isAt : state.isAt .leftParen = true := by
      rw [State.isAt_of_glyphs known]
      rfl
    rw [isAt]
    obtain ⟨first, tail, rfl, starts⟩ := reads.starts
    have other : first.kind ≠ .keyword .kwThrow := fun kind => noThrow (by rw [← kind]; rfl)
    refine .attempt (castHead_reads spelled builtin nonempty starts other innerDerived
      room.deeper.fits) (fun target same => ?_) fun never => ?_
    · subst same
      exact (reads.cast tight loose inner innerDerived sure _ room.deeper).andThen (.pure rfl)
    · exact .of_refuses (unary_refuses spelled builtin nonempty (bracketed_words spelled) inner
        innerDerived _ room.plain) never

end

end CppSyntax
