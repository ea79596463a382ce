import CppSyntax.Proofs.Statement.Forms

/-!
Statements that hold other statements. Each is read if the statements in it are, whatever they are;
only an `else` could go on with one that ends in an `if`.
-/

namespace CppSyntax

open CppSyntax.Parser Grammar

section

variable {nest : Nat} {glyphs middle rest : List Glyph} {digits : String}
  {named opened spaced closed : Bool} {start : Glyph} {body : Statement} {context : Context}
  {sure : Prop} {g : Grammar Parser}

/-- What follows the first branch: the other branch, or a token that starts none. -/
inductive ReadsElse (nest : Nat) : Part .statement → List Glyph → List Glyph → Prop where
  | none {first : Glyph} {rest : List Glyph} (noElse : first.kind ≠ .keyword .kwElse) :
      ReadsElse nest .absent (first :: rest) (first :: rest)
  | some {joint : Bool} {start : Glyph} {glyphs rest : List Glyph} {branch : Statement}
      (reads : ReadsErased (fun g => g.statement) nest (start :: glyphs) branch rest) :
      ReadsElse nest (.present branch) (⟨.keyword .kwElse, joint⟩ :: start :: glyphs) rest

/-- The word that makes the condition one for the compiler. -/
def constexprGlyphs (isConstexpr joint : Bool) : List Glyph :=
  if isConstexpr then [⟨.keyword .kwConstexpr, joint⟩] else []

private theorem constexpr_reads (isConstexpr joint : Bool) :
    (acceptWord .kwConstexpr : Parser _).Reads context sure
      (constexprGlyphs isConstexpr joint ++ ⟨.punctuator .leftParen, opened⟩ :: rest)
      (· = isConstexpr) (⟨.punctuator .leftParen, opened⟩ :: rest) := by
  cases isConstexpr with
  | true => exact .acceptWord (List.cons_ne_nil _ _) rfl
  | false => exact .missingWord (by simp)

theorem ReadsErased.branching {isConstexpr joint : Bool} {init : Option String}
    {front : List Glyph} {other : Part .statement} (spelled : SpellsStatement init front)
    (first : ReadsErased (fun g => g.statement) (nest + 1) (start :: glyphs) body middle)
    (second : ReadsElse (nest + 1) other middle rest) :
    ReadsErased (fun g => g.statement) (nest + 2) (⟨.keyword .kwIf, named⟩ ::
        (constexprGlyphs isConstexpr joint ++ ⟨.punctuator .leftParen, opened⟩ ::
          (front ++ ⟨.integer digits, spaced⟩ :: ⟨.punctuator .rightParen, closed⟩ ::
            start :: glyphs)))
      (.statement .erased (.ifStatement isConstexpr
        (.ofOption (init.map (.integerStatement .erased))) (.integerTest digits) body other)) rest := by
  refine .statement _ (chosen_of_word fun _ => rfl) fun g derived sure context room => ?_
  refine (Reads.advance (by simp) (by simp)).quietly.bind fun _ _ => ?_
  refine (constexpr_reads isConstexpr joint).quietly.andThen ?_
  refine (Reads.expect (by simp) rfl).quietly.bind fun _ _ => ?_
  refine (initAndCondition_reads spelled derived
    (room.less (Nat.le_add_left 1 nest))).quietly.bind fun head known => ?_
  obtain ⟨before, test⟩ := head
  obtain ⟨same, rfl⟩ := known
  refine (Reads.expect (by simp) rfl).quietly.bind fun _ _ => ?_
  refine (first g derived sure context (room.less (Nat.le_refl _))).bind fun branch branchSame => ?_
  have whole (found : Option Statement) (sameOther : (Part.ofOption found).erase = other) :
      (Tree.ifStatement isConstexpr (.ofOption before) (.integerTest digits) branch
        (.ofOption found)).erase = .ifStatement isConstexpr
          (.ofOption (init.map (.integerStatement .erased))) (.integerTest digits) body other := by
    show Tree.ifStatement isConstexpr (Part.ofOption before).erase (.integerTest digits) branch.erase
      (Part.ofOption found).erase = _
    rw [Part.erase_ofOption, same, branchSame, sameOther]
  cases second with
  | none noElse =>
    exact (Reads.missingWord noElse).quietly.andThen (.pure (whole none rfl))
  | @some _ next glyphs _ branch reads =>
    have given : (some <$> g.statement : Parser (Option Statement)).ReadsUnder State.Quiet context
        sure (next :: glyphs) (fun found => (Part.ofOption found).erase = .present branch) rest :=
      (reads g derived sure context room).bind fun found known =>
        .pure (congrArg Part.present known)
    refine (Reads.acceptWord (by simp) rfl).quietly.andThen ?_
    exact given.bind fun found known => .pure (whole found known)

theorem ReadsErased.switching {init : Option String} {front : List Glyph}
    (spelled : SpellsStatement init front)
    (inner : ReadsErased (fun g => g.statement) (nest + 1) (start :: glyphs) body rest) :
    ReadsErased (fun g => g.statement) (nest + 2) (⟨.keyword .kwSwitch, named⟩ ::
        ⟨.punctuator .leftParen, opened⟩ :: (front ++ ⟨.integer digits, spaced⟩ ::
        ⟨.punctuator .rightParen, closed⟩ :: start :: glyphs))
      (.statement .erased (.switchStatement (.ofOption (init.map (.integerStatement .erased)))
        (.integerTest digits) body)) rest := by
  refine .statement _ (chosen_of_word fun _ => rfl) fun g derived sure context room => ?_
  refine (Reads.advance (by simp) (by simp)).quietly.bind fun _ _ => ?_
  refine (Reads.expect (by simp) rfl).quietly.bind fun _ _ => ?_
  refine (initAndCondition_reads spelled derived
    (room.less (Nat.le_add_left 1 nest))).quietly.bind fun head known => ?_
  obtain ⟨before, test⟩ := head
  obtain ⟨same, rfl⟩ := known
  refine (Reads.expect (by simp) rfl).quietly.bind fun _ _ => ?_
  refine (inner g derived sure context room).bind fun found known => .pure ?_
  show Tree.switchStatement (Part.ofOption before).erase (.integerTest digits) found.erase = _
  rw [Part.erase_ofOption, same, known]

theorem ReadsErased.repeating (inner : ReadsErased (fun g => g.statement) (nest + 1)
    (start :: glyphs) body rest) :
    ReadsErased (fun g => g.statement) (nest + 2) (⟨.keyword .kwWhile, named⟩ ::
        ⟨.punctuator .leftParen, opened⟩ :: ⟨.integer digits, spaced⟩ ::
        ⟨.punctuator .rightParen, closed⟩ :: start :: glyphs)
      (.statement .erased (.whileStatement (.integerTest digits) body)) rest := by
  refine .statement _ (chosen_of_word fun _ => rfl) fun g derived sure context room => ?_
  have condition : (angleCloses false g.condition).Reads context sure
      (⟨.integer digits, spaced⟩ :: ⟨.punctuator .rightParen, closed⟩ :: start :: glyphs)
      (· = .integerTest digits) (⟨.punctuator .rightParen, closed⟩ :: start :: glyphs) :=
    .angleCloses (condition_reads rfl derived (room.less (Nat.le_add_left 1 nest)).bracketed)
  refine (Reads.advance (by simp) (by simp)).quietly.bind fun _ _ => ?_
  refine (Reads.expect (by simp) rfl).quietly.bind fun _ _ => ?_
  refine condition.quietly.andThen ?_
  refine (Reads.expect (by simp) rfl).quietly.bind fun _ _ => ?_
  exact (inner g derived sure context room).bind fun found known => .pure (known ▸ rfl)

theorem ReadsErased.doing {looped ended : Bool} (more : rest ≠ [])
    (inner : ReadsErased (fun g => g.statement) (nest + 1) (start :: glyphs) body
      (⟨.keyword .kwWhile, looped⟩ :: ⟨.punctuator .leftParen, opened⟩ ::
        ⟨.integer digits, spaced⟩ :: ⟨.punctuator .rightParen, closed⟩ ::
        ⟨.punctuator .semicolon, ended⟩ :: rest)) :
    ReadsErased (fun g => g.statement) (nest + 2) (⟨.keyword .kwDo, named⟩ :: start :: glyphs)
      (.statement .erased (.doStatement body (.integer digits))) rest := by
  refine .statement _ (chosen_of_word fun _ => rfl) fun g derived sure context room => ?_
  have test : g.bracketed.Reads context sure (⟨.integer digits, spaced⟩ ::
      ⟨.punctuator .rightParen, closed⟩ :: ⟨.punctuator .semicolon, ended⟩ :: rest)
      (· = .integer digits)
      (⟨.punctuator .rightParen, closed⟩ :: ⟨.punctuator .semicolon, ended⟩ :: rest) :=
    .angleCloses (integer_reads rfl g derived sure _ (room.less (Nat.le_add_left 1 nest)).bracketed)
  refine (Reads.advance (by simp) (by simp)).quietly.bind fun _ _ => ?_
  refine (inner g derived sure context room).bind fun found known => ?_
  refine (Reads.expectWord (by simp) rfl).quietly.bind fun _ _ => ?_
  refine (Reads.expect (by simp) rfl).quietly.bind fun _ _ => ?_
  refine test.quietly.andThen ?_
  refine (Reads.expect (by simp) rfl).quietly.bind fun _ _ => ?_
  exact (Reads.expect more rfl).quietly.bind fun _ _ => .pure (known ▸ rfl)

theorem ReadsErased.counting {init test step : Option String} {front middle final : List Glyph}
    {ended joint : Bool} (spelledInit : SpellsDigits init front)
    (spelledTest : SpellsDigits test middle) (spelledStep : SpellsDigits step final)
    (inner : ReadsErased (fun g => g.statement) (nest + 1) (start :: glyphs) body rest) :
    ReadsErased (fun g => g.statement) (nest + 2) (⟨.keyword .kwFor, named⟩ ::
        ⟨.punctuator .leftParen, opened⟩ :: (front ++ ⟨.punctuator .semicolon, ended⟩ ::
          (middle ++ ⟨.punctuator .semicolon, joint⟩ :: (final ++
            ⟨.punctuator .rightParen, closed⟩ :: start :: glyphs))))
      (.statement .erased (.forStatement (.ofOption (init.map (.integerStatement .erased)))
        (.ofOption (test.map .integerTest)) (.ofOption (step.map .integer)) body)) rest := by
  refine .statement _ (chosen_of_word fun _ => rfl) fun g derived sure context room => ?_
  refine (Reads.advance (by simp) (by simp)).quietly.bind fun _ _ => ?_
  refine (Reads.expect (by simp) rfl).quietly.bind fun _ _ => ?_
  refine (Reads.angleCloses (loopHeader_reads spelledInit spelledTest spelledStep derived
    (room.less (Nat.le_add_left 1 nest)).bracketed)).quietly.bind fun header known => ?_
  obtain ⟨before, rfl, same⟩ := known
  refine (Reads.expect (by simp) rfl).quietly.bind fun _ _ => ?_
  refine (inner g derived sure context room).bind fun found known => .pure ?_
  show Tree.forStatement (Part.ofOption before).erase (Part.ofOption (test.map .integerTest)).erase
    (Part.ofOption (step.map .integer)).erase found.erase = _
  rw [Part.erase_ofOption, same, known]
  cases test <;> cases step <;> rfl

/-- Handlers without parameters, up to a token that starts no other one. -/
inductive ReadsHandlers (nest : Nat) : List (Tree .block) → List Glyph → List Glyph → Prop where
  | nil {first : Glyph} {rest : List Glyph} (noCatch : first.kind ≠ .keyword .kwCatch) :
      ReadsHandlers nest [] (first :: rest) (first :: rest)
  | cons {named opened skipped closed : Bool} {opening : Glyph} {glyphs middle rest : List Glyph}
      {body : Tree .block} {bodies : List (Tree .block)}
      (block : ReadsErased (fun g => g.block) nest (opening :: glyphs) body middle)
      (later : ReadsHandlers nest bodies middle rest) :
      ReadsHandlers nest (body :: bodies) (⟨.keyword .kwCatch, named⟩ ::
        ⟨.punctuator .leftParen, opened⟩ :: ⟨.punctuator .ellipsis, skipped⟩ ::
        ⟨.punctuator .rightParen, closed⟩ :: opening :: glyphs) rest

private theorem handler_reads {opening : Glyph} {skipped : Bool} {inner : Tree .block}
    (derived : g.IsDerived) (room : Room sure context nest)
    (block : ReadsErased (fun g => g.block) nest (opening :: glyphs) inner rest) :
    g.handler.ReadsUnder State.Quiet context sure (⟨.punctuator .leftParen, opened⟩ ::
        ⟨.punctuator .ellipsis, skipped⟩ :: ⟨.punctuator .rightParen, closed⟩ :: opening :: glyphs)
      (·.erase = .handler .absent inner) rest := by
  have parameter : g.handlerParameter.Reads context sure (⟨.punctuator .ellipsis, skipped⟩ ::
      ⟨.punctuator .rightParen, closed⟩ :: opening :: glyphs) (· = none)
      (⟨.punctuator .rightParen, closed⟩ :: opening :: glyphs) :=
    (Reads.accept (by simp) rfl).andThen (.pure rfl)
  refine (Reads.expect (by simp) rfl).quietly.bind fun _ _ => ?_
  refine parameter.quietly.andThen ?_
  refine (Reads.expect (by simp) rfl).quietly.bind fun _ _ => ?_
  exact (block g derived sure context room).bind fun found known => .pure (known ▸ rfl)

private theorem handlers_read {bodies : List (Tree .block)}
    (row : ReadsHandlers nest bodies glyphs rest) (derived : g.IsDerived)
    (room : Room sure context nest) (found : List (Tree .handler)) (fuel : Nat) :
    (iterate g.handlerStep fuel found).ReadsUnder State.Quiet context sure glyphs
      (fun all => all.map Tree.erase = found.map Tree.erase ++ bodies.map (.handler .absent)) rest := by
  induction row generalizing found fuel with
  | nil noCatch =>
    refine .stop found ?_ (List.append_nil _).symm fuel
    exact (Reads.missingWord noCatch).quietly.andThen (.pure rfl)
  | @cons named opened skipped closed opening inside middle _ body _ block later ih =>
    let isNext (all : List (Tree .handler)) : Prop :=
      ∃ more, all = found ++ [more] ∧ more.erase = .handler .absent body
    have step : (g.handlerStep found).ReadsUnder State.Quiet context sure
        (⟨.keyword .kwCatch, named⟩ :: ⟨.punctuator .leftParen, opened⟩ ::
          ⟨.punctuator .ellipsis, skipped⟩ :: ⟨.punctuator .rightParen, closed⟩ :: opening :: inside)
        (fun result => ∃ next, result = .inl next ∧ isNext next) middle := by
      refine (Reads.acceptWord (by simp) rfl).quietly.andThen ?_
      refine (handler_reads derived room block).bind fun more known => ?_
      exact .pure ⟨_, rfl, more, rfl, known⟩
    refine .again isNext step (fun all seen fuel => ?_) fuel
    obtain ⟨more, rfl, known⟩ := seen
    simpa [known] using ih (found ++ [more]) fuel

/-- A block with at least one handler. -/
theorem ReadsErased.trying {opening : Glyph} {inner handler : Tree .block}
    {bodies : List (Tree .block)}
    (block : ReadsErased (fun g => g.block) nest (opening :: glyphs) inner middle)
    (row : ReadsHandlers nest (handler :: bodies) middle rest) :
    ReadsErased (fun g => g.statement) (nest + 1) (⟨.keyword .kwTry, named⟩ :: opening :: glyphs)
      (.statement .erased (.tryStatement inner
        (.ofList ((handler :: bodies).map (.handler .absent))))) rest := by
  refine .statement _ (chosen_of_word fun _ => rfl) fun g derived sure context room => ?_
  refine (Reads.advance (by simp) (by simp)).quietly.bind fun _ _ => ?_
  refine (block g derived sure context room).bind fun found known => ?_
  refine (handlers_read row derived room [] g.fuel).bind fun all same => ?_
  cases all with
  | nil => cases same
  | cons first others =>
    refine .pure ?_
    show Tree.tryStatement found.erase (Trees.ofList (first :: others)).erase = _
    rw [Trees.erase_ofList, known, same]
    rfl

end

end CppSyntax
