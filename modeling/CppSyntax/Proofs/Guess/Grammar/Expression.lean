import CppSyntax.Proofs.Guess.Grammar.Type

/-!
Operands and operators. In template arguments a bare `>` is no operator and assignments do not come
up, so that expressions there keep to the region of template arguments.
-/

namespace CppSyntax.Grammar

open CppSyntax.Parser

variable {g : Grammar Parser} {context : Context} {region : Region}

/-- Where operands stand, all tokens may stand that template arguments hold. -/
theorem region_allows {kind : TokenKind} (allowed : Region.argument.allows kind = true) :
    context.region.allows kind = true := by
  unfold Context.region
  split
  · exact allowed
  · rfl

theorem region_steps {kind : TokenKind} {depth : Nat} (noOpening : kind.opensBracket = false)
    (noClosing : kind.closesBracket = false) (goesOn : kind.isStop = false)
    (allowed : Region.argument.allows kind = true) : context.region.Steps kind depth depth :=
  .token noOpening noClosing goesOn (.inr (region_allows allowed))

private theorem any_mark {mark : Punctuator} {depth : Nat}
    (plain : ((TokenKind.punctuator mark).opensBracket || (TokenKind.punctuator mark).closesBracket ||
      (TokenKind.punctuator mark).isStop) = false) :
    Region.anything.Steps (.punctuator mark) depth depth := by
  rw [Bool.or_eq_false_iff, Bool.or_eq_false_iff] at plain
  exact .token plain.1.1 plain.1.2 plain.2 (.inr rfl)

/-- The tokens of an operator are passed over. -/
theorem binaryOp_closes {state : State} {op : BinaryOp} {width : Nat} {f : Unit → Parser α}
    (found : state.binaryOp? context = some (op, width))
    (later : ∀ reached, (f ()).Closes context context.region 0 reached) :
    (advanceBy width >>= f).Closes context context.region 0 state := by
  unfold State.binaryOp? at found
  cases known : state.kind with
  | punctuator mark =>
    rw [known] at found
    have one (same : width = 1) (steps : context.region.Steps (.punctuator mark) 0 0) :
        (advanceBy width >>= f).Closes context context.region 0 state :=
      same ▸ .advanceByOne known steps later
    have outside (plain : context.inTemplateArguments = false) : context.region = .anything := by
      simp [Context.region, plain]
    cases mark with
    | greaterEq =>
      cases inside : context.inTemplateArguments with
      | true => simp [inside] at found
      | false =>
        simp only [inside, Bool.false_eq_true, if_false, Option.some.injEq, Prod.mk.injEq] at found
        exact one found.2.symm (outside inside ▸ any_mark rfl)
    | greater =>
      cases inside : context.inTemplateArguments with
      | true => simp [inside] at found
      | false =>
        have steps {mark : Punctuator} (plain : ((TokenKind.punctuator mark).opensBracket ||
            (TokenKind.punctuator mark).closesBracket || (TokenKind.punctuator mark).isStop) = false) :
            context.region.Steps (.punctuator mark) 0 0 := outside inside ▸ any_mark plain
        simp only [inside, Bool.false_eq_true, if_false] at found
        split at found
        · rename_i shifts
          simp only [Bool.and_eq_true] at shifts
          cases found
          exact .advanceByTwo known (by simpa [State.isAhead] using shifts.2) (steps rfl)
            (steps rfl) later
        · split at found
          · cases found
          · cases found
            exact one rfl (steps rfl)
    | _ =>
      first
        | cases found; done
        | cases found; exact one rfl (region_steps rfl rfl rfl rfl)
  | _ =>
    rw [known] at found
    cases found

theorem assignOp_closes {state : State} {op : AssignOp} {width : Nat} {f : Unit → Parser α}
    (found : state.assignOp? context = some (op, width))
    (later : ∀ reached, (f ()).Closes context .anything 0 reached) :
    (advanceBy width >>= f).Closes context .anything 0 state := by
  unfold State.assignOp? at found
  cases known : state.kind with
  | punctuator mark =>
    rw [known] at found
    simp only at found
    split at found
    · rename_i shifts
      simp only [Bool.and_eq_true, beq_iff_eq] at shifts
      cases found
      obtain ⟨⟨⟨rfl, _⟩, _⟩, ahead⟩ := shifts
      exact .advanceByTwo known (by simpa [State.isAhead] using ahead) (any_mark rfl) (any_mark rfl)
        later
    · cases mark <;> cases found <;> exact .advanceByOne known (any_mark rfl) later
  | _ =>
    rw [known] at found
    cases found

theorem block_tidy : g.block.Keeps context region := fun _ => .assoc (.expectNever rfl rfl)

section

variable (tidy : g.Tidy)

include tidy

/-- No fold can be read, since its ellipsis cannot come up. -/
theorem fold_tidy (plain : context.inTemplateArguments = false) :
    g.fold.Keeps context .anything := by
  have operand : g.cast.Keeps context .anything := tidy.cast.anything
  refine fun state => .acceptNever rfl rfl (.bind operand fun left place => ?_)
  refine .bind (fun state => ?_) fun op _ => .expectNever rfl rfl
  refine .here (.byContext ?_)
  cases found : state.foldOp? context with
  | none => exact .fail _
  | some pair =>
    obtain ⟨op, width⟩ := pair
    unfold State.foldOp? at found
    split at found
    · rename_i isAt
      cases found
      exact .advanceByOne (by simpa [State.isAt] using isAt) (any_mark rfl) fun _ => .pure
    · have outside : context.region = .anything := by simp [Context.region, plain]
      exact outside ▸ binaryOp_closes found fun _ => .pure

/-- Parentheses are closed behind their expression. -/
theorem parenthesized_closes {state : State} : g.parenthesized.Closes context region 1 state := by
  have closes (inner : Expr) {state : State} : (do
      expect .rightParen "to close parenthesized expression"
      return inner : Parser Expr).Closes context region 1 state :=
    .expect (.closing rfl) fun _ => .pure
  have unfolded {state : State} : (do
      let inner ← g.bracketed
      expect .rightParen "to close parenthesized expression"
      return inner : Parser Expr).Closes context region 1 state :=
    .bindInside (bracketed_tidy tidy) fun inner _ => closes inner
  refine .here (.branch (fun _ => ?_) fun _ => .pureThen unfolded)
  refine .bindInside (Keeps.attempt (.angleCloses (fold_tidy tidy rfl))) fun folded _ => ?_
  cases folded with
  | some inner => exact .pureThen (closes inner)
  | none => exact unfolded

theorem capturedName_tidy : g.capturedName.Keeps context .anything :=
  fun _ => .bind .expectIdentifier fun _ _ => .acceptNever rfl rfl <|
    .bind (defaultValue_tidy tidy) fun _ _ => .pure

theorem capture_tidy : g.capture.Keeps context .anything := by
  have named (f : String × Option Expr × Bool → Tree .capture) :
      (g.capturedName >>= fun found => pure (f found) : Parser _).Keeps context .anything :=
    fun _ => .bind (capturedName_tidy tidy) fun _ _ => .pure
  refine fun state => .here (.accept (any_mark rfl) (fun _ => .pure) ?_)
  refine .accept (any_mark rfl) (fun place => ?_) ?_
  · cases state.ahead 1 with
    | identifier ident => exact named _ place
    | _ => exact .pure
  · refine .acceptWord (.token rfl rfl rfl (.inr rfl)) (fun _ => .pure) ?_
    refine .branch nofun fun _ => .branch (fun copies => ?_) fun _ => named _ state
    simp only [Bool.and_eq_true] at copies
    exact .advanceByTwo (by simpa [State.isAt] using copies.1)
      (by simpa [State.isAheadWord] using copies.2) (any_mark rfl)
      (.token rfl rfl rfl (.inr rfl)) fun _ => .pure

theorem lambda_tidy : g.lambda.Keeps context region := by
  have captures : (angleCloses false g.captures).Keeps context .anything := by
    refine .angleCloses fun state => .here (.branch (fun _ => .pure) fun _ => ?_)
    refine Keeps.iterate (fun items place => ?_) _ _ state
    refine .bind (capture_tidy tidy) fun item _ => ?_
    exact .accept (any_mark rfl) (fun _ => .pure) .pure
  have words : g.lambdaWords.Keeps context region := by
    refine .iterate (fun found state => ?_) _ _
    exact .acceptWordNever (by decide) (.acceptWordNever (by decide) .pure)
  refine fun state => .expect (.opening rfl) fun _ => .bindInside captures fun found _ => ?_
  refine .expect (.closing rfl) fun place => .here ?_
  refine .branch (fun _ => .bind (.map (parameterList_tidy tidy).ofType) fun parameters place => ?_)
    fun _ => .pureThen ?_
  all_goals
    refine .bind words fun found place => .here (.ordinarily fun ordinary => ?_)
    rw [atExceptionSpec_ordinary ordinary]
    refine .pureThen (.bind (trailingResult_tidy tidy).ofType fun result _ => ?_)
    exact .bind block_tidy fun _ _ => .pure

theorem namedExpression_tidy : g.namedExpression.Keeps context .type := by
  refine fun state => .bind (tidy.name true) fun target place => .here ?_
  exact .branch (fun _ => .bind bracedList_tidy fun _ _ => .pure) fun _ => .pure

omit tidy in
/-- An operand of a single token is passed over. -/
private theorem leaf_tidy {kind : TokenKind} {state : State} (known : state.kind = kind)
    (leaf : kind.isLeaf = true) (value : Expr) :
    (do advance; return value : Parser Expr).Closes context context.region 0 state := by
  refine .advance known ?_ fun _ => .pure
  cases kind with
  | punctuator => cases leaf
  | _ => first | exact region_steps rfl rfl rfl rfl | cases leaf

theorem primary_tidy : g.primary.Keeps context context.region := by
  refine fun state => .here (.ordinarily fun ordinary => ?_)
  have leaf {kind : TokenKind} (known : state.kind = kind) (goesOn : kind.isStop = false) :
      kind.isOrdinary = true := by
    rcases State.kind_ordinary ordinary with stops | is
    · rw [known, goesOn] at stops
      cases stops
    · rwa [known] at is
  cases known : state.kind with
  | identifier ident => exact (namedExpression_tidy tidy).ofType state
  | integer text => exact leaf_tidy known rfl _
  | keyword word =>
    have isLeaf : (TokenKind.keyword word).isLeaf = true := leaf known rfl
    cases word <;> first | cases isLeaf; done | exact leaf_tidy known rfl _
  | punctuator mark =>
    cases mark with
    | leftParen => exact .advance known (.opening rfl) fun _ => parenthesized_closes tidy
    | leftBracket => exact lambda_tidy tidy state
    | leftBrace | scope => cases leaf known rfl
    | _ => exact .fail _
  | endOfFile => exact .fail _
  | _ => cases leaf known rfl

theorem postfixStep_tidy (object : Expr) : (g.postfixStep object).Keeps context context.region := by
  refine fun state => .here ?_
  cases known : state.kind with
  | punctuator mark =>
    cases mark with
    | leftParen =>
      refine .advance known (.opening rfl) fun _ => ?_
      exact expressionList_closes tidy rfl fun values _ => .pure
    | leftBracket =>
      have position : (angleCloses false g.expressionOrBraced).Keeps context .anything :=
        .angleCloses (expressionOrBraced_tidy tidy)
      refine .advance known (.opening rfl) fun _ => .bindInside position fun value _ => ?_
      exact .expect (.closing rfl) fun _ => .pure
    | dot | arrow =>
      refine .advance known (region_steps rfl rfl rfl rfl) fun _ => ?_
      exact .bind (tidy.name true).ofType fun target _ => .pure
    | plusPlus | minusMinus =>
      exact .advance known (region_steps rfl rfl rfl rfl) fun _ => .pure
    | _ => exact .pure
  | _ => exact .pure

theorem postfixed_tidy : g.postfixed.Keeps context context.region :=
  fun _ => .bind (primary_tidy tidy) fun first => Keeps.iterate (postfixStep_tidy tidy) _ first

theorem unaryRule_tidy : g.unaryRule.Keeps context context.region := by
  refine fun state => .here (.ordinarily fun ordinary => ?_)
  have operand : g.postfixed.Closes context context.region 0 state := postfixed_tidy tidy state
  cases known : state.kind with
  | keyword word =>
    have isLeaf : (TokenKind.keyword word).isLeaf = true := by
      rcases State.kind_ordinary ordinary with stops | is
      · rw [known] at stops
        cases stops
      · rwa [known] at is
    cases word <;> first | cases isLeaf; done | exact operand
  | punctuator mark =>
    have before {op : UnaryOp} (steps : context.region.Steps (.punctuator mark) 0 0) :
        (do advance; return .unary op (← g.cast) : Parser Expr).Closes context context.region 0
          state :=
      .advance known steps fun _ => .bind tidy.cast fun _ _ => .pure
    cases mark with
    | scope =>
      rcases State.kind_ordinary ordinary with stops | is
      · rw [known] at stops
        cases stops
      · rw [known] at is
        cases is
    | plusPlus | minusMinus | plus | minus | bang | tilde | star | ampersand =>
      exact before (region_steps rfl rfl rfl rfl)
    | _ => exact operand
  | _ => exact operand

theorem castHead_tidy : g.castHead.Keeps context region := by
  have target : (angleCloses false g.certainTypeId).Keeps context .type :=
    .angleCloses (certainTypeId_tidy tidy)
  refine fun state => .expect (.opening rfl) fun _ => .bindInside target fun found _ => ?_
  refine .expect (.closing rfl) fun _ => .here ?_
  exact .branch (fun _ => .pure) fun _ => .fail _

theorem castRule_tidy : g.castRule.Keeps context context.region := by
  refine .nested fun state => .here (.branch (fun _ => ?_) fun _ => tidy.unary state)
  refine .attempt (castHead_tidy tidy) (fun target _ => ?_) (tidy.unary state)
  exact .bind tidy.cast fun _ _ => .pure

theorem binaryStep_tidy (level : Nat) (left : Expr) :
    (g.binaryStep level left).Keeps context context.region := by
  refine fun state => .here (.byContext ?_)
  cases found : state.binaryOp? context with
  | none => exact .pure
  | some pair =>
    obtain ⟨op, width⟩ := pair
    refine .branch (fun _ => .pure) fun _ => ?_
    exact binaryOp_closes found fun _ => .bind (tidy.binary _) fun _ _ => .pure

theorem binaryRule_tidy (level : Nat) : (g.binaryRule level).Keeps context context.region :=
  fun _ => .bind tidy.cast fun first => Keeps.iterate (binaryStep_tidy tidy level) _ first

theorem assignmentRule_tidy : g.assignmentRule.Keeps context .anything := by
  refine fun state => .acceptWordNever (by decide) ?_
  refine .bind (conditional_tidy tidy).anything fun target place => .here (.byContext ?_)
  cases found : place.assignOp? context with
  | none => exact .pure
  | some pair =>
    obtain ⟨op, width⟩ := pair
    exact assignOp_closes found fun _ => .bind tidy.clause fun _ _ => .pure

theorem clauseRule_tidy : g.clauseRule.Keeps context .anything := by
  refine fun state => .here (.branch (fun _ => ?_) fun _ => tidy.assignment state)
  exact .bind bracedList_tidy fun _ _ => .pure

/-- Every rule keeps to its brackets if the symbols do that it calls. -/
theorem rule_tidy (symbol : Symbol) (ordinary : symbol.isOrdinary = true) (context : Context) :
    (g.rule symbol).Keeps context (symbol.region context) := by
  cases symbol with
  | declaration | statement | templateParameters => cases ordinary
  | clause => exact clauseRule_tidy tidy
  | assignment => exact assignmentRule_tidy tidy
  | binary level => exact binaryRule_tidy tidy level
  | cast => exact castRule_tidy tidy
  | unary => exact unaryRule_tidy tidy
  | specifiers scope => exact specifiersRule_tidy tidy scope
  | declarator mode => exact declaratorRule_tidy tidy mode
  | name inExpression => exact nameRule_tidy tidy inExpression

end

/-- In a derived grammar every symbol keeps to the brackets around it. -/
theorem IsDerived.tidy (derived : g.IsDerived) : g.Tidy := by
  obtain ⟨fuel, depth, rfl⟩ := derived
  induction depth with
  | zero => exact ⟨fun _ _ _ _ _ _ _ => nofun⟩
  | succ depth ih => exact ⟨fun symbol ordinary context => rule_tidy ih symbol ordinary context⟩

end CppSyntax.Grammar
