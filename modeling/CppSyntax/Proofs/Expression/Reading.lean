import CppSyntax.Proofs.Expression.Brackets

/-!
How the rules read the written form of an expression. A form is written at a level of binding, and
every rule that accepts the level reads the same expression, provided that what follows attaches more
loosely. The rules with loops are said to read into their loop, which goes on behind the form.
-/

namespace CppSyntax

open CppSyntax.Parser Grammar

/-- A bare `>` is an operator here, and if an answer is sure there is room for so many levels. -/
structure Room (sure : Prop) (context : Context) (nest : Nat) : Prop where
  plain : context.inTemplateArguments = false
  allowed : sure → context.depth + nest ≤ nestingLimit

namespace Room

variable {sure : Prop} {context : Context} {nest : Nat}

theorem deeper (room : Room sure context (nest + 1)) :
    Room sure { context with depth := context.depth + 1 } nest :=
  ⟨room.plain, fun certain => by
    have allowed := room.allowed certain
    show context.depth + 1 + nest ≤ nestingLimit
    omega⟩

theorem fits (room : Room sure context (nest + 1)) (certain : sure) :
    context.depth < nestingLimit := by
  have allowed := room.allowed certain
  omega

theorem less {fewer : Nat} (room : Room sure context nest) (le : fewer ≤ nest) :
    Room sure context fewer :=
  ⟨room.plain, fun certain => Nat.le_trans (by omega) (room.allowed certain)⟩

theorem bracketed (room : Room sure context nest) :
    Room sure { context with inTemplateArguments := false } nest :=
  ⟨rfl, room.allowed⟩

theorem unsure (plain : context.inTemplateArguments = false) : Room False context nest :=
  ⟨plain, False.elim⟩

end Room

/-- With room for so many levels the rule reads a good value and stops before the rest. -/
def RuleReads (rule : Grammar Parser → Parser α) (nest : Nat) (glyphs : List Glyph) (good : α → Prop)
    (rest : List Glyph) : Prop :=
  ∀ g : Grammar Parser, g.IsDerived → ∀ (sure : Prop) (context : Context), Room sure context nest →
    (rule g).Reads context sure glyphs good rest

/-- The rule reads what its loop, begun with a value behind the form, would read there. -/
def ReadsInto (rule : Grammar Parser → Parser Expr) (step : Grammar Parser → Expr → Parser (Expr ⊕ Expr))
    (nest : Nat) (glyphs : List Glyph) (value : Expr) (rest : List Glyph) : Prop :=
  ∀ g : Grammar Parser, g.IsDerived → ∀ (sure : Prop) (context : Context), Room sure context nest →
    ∀ (good : Expr → Prop) (last : List Glyph),
      (∀ fuel, (iterate (step g) fuel value).Reads context sure rest good last) →
      (rule g).Reads context sure glyphs good last

/-- The loop of a rule ends before these tokens. -/
def StopsBefore (step : Grammar Parser → Expr → Parser (Expr ⊕ Expr)) (rest : List Glyph) : Prop :=
  ∀ g : Grammar Parser, ∀ (sure : Prop) (context : Context), context.inTemplateArguments = false →
    ∀ value, (step g value).Reads context sure rest (· = .inr value) rest

section

variable {rule : Grammar Parser → Parser Expr} {step : Grammar Parser → Expr → Parser (Expr ⊕ Expr)}
  {nest more : Nat} {glyphs rest : List Glyph} {value : Expr}

theorem ReadsInto.stop (reads : ReadsInto rule step nest glyphs value rest)
    (stops : StopsBefore step rest) : RuleReads rule nest glyphs (· = value) rest :=
  fun g derived sure context room => by
    exact reads g derived sure context room _ _ (.stopWith (stops g sure context room.plain value))

theorem ReadsInto.mono (reads : ReadsInto rule step nest glyphs value rest) (le : nest ≤ more) :
    ReadsInto rule step more glyphs value rest :=
  fun g derived sure context room => reads g derived sure context (room.less le)

theorem RuleReads.mono {rule : Grammar Parser → Parser α} {good : α → Prop}
    (reads : RuleReads rule nest glyphs good rest) (le : nest ≤ more) :
    RuleReads rule more glyphs good rest :=
  fun g derived sure context room => reads g derived sure context (room.less le)

end

section

variable {rest : List Glyph}

theorem binaryOp?_loose {op : BinaryOp} {width level : Nat} (loose : tightness rest < level)
    (found : Glyph.binaryOp? rest = some (op, width)) : op.precedence < level := by
  rwa [tightness_of_binaryOp? found] at loose

theorem stopsBefore_appending (more : rest ≠ []) (loose : tightness rest < Precedence.postfixed) :
    StopsBefore (fun g => g.postfixStep) rest := by
  intro g sure context plain value
  obtain ⟨first, tail, rfl⟩ := List.exists_cons_of_ne_nil more
  refine .byPlace fun state known => ?_
  rw [State.kind_of_glyphs known]
  split
  case h_7 => exact .pure rfl
  all_goals
    rename_i kind
    rw [tightness_appends kind rfl] at loose
    exact absurd loose (Nat.lt_irrefl _)

theorem stopsBefore_binary {level : Nat} (more : rest ≠ []) (loose : tightness rest < level) :
    StopsBefore (fun g => g.binaryStep level) rest := by
  intro g sure context plain value
  obtain ⟨first, tail, rfl⟩ := List.exists_cons_of_ne_nil more
  refine .byPlace fun state known => .byContext ?_
  rw [State.binaryOp?_of_glyphs known plain]
  split
  · exact .pure rfl
  · rename_i op width found
    rw [if_pos (binaryOp?_loose loose found)]
    exact .pure rfl

theorem stopsBefore_comma (more : rest ≠ []) (loose : tightness rest < Precedence.comma) :
    StopsBefore (fun g => g.commaStep) rest := by
  intro g sure context plain value
  obtain ⟨first, tail, rfl⟩ := List.exists_cons_of_ne_nil more
  have noComma : first.kind ≠ .punctuator .comma := by
    intro kind
    rw [tightness_comma kind] at loose
    exact absurd loose (Nat.lt_irrefl _)
  exact (Reads.missing noComma).andThen (.pure rfl)

end

/-- The first token of an expression. -/
def TokenKind.startsExpression : TokenKind → Bool
  | .punctuator mark => mark == .leftParen || mark.prefixOp?.isSome
  | .keyword word => word == .kwThrow || word == .kwSizeof || (TokenKind.keyword word).isLeaf
  | kind => kind.isLeaf

theorem TokenKind.startsExpression_of_isLeaf {kind : TokenKind} (leaf : kind.isLeaf = true) :
    kind.startsExpression = true := by
  cases kind with
  | keyword word => simp [startsExpression, leaf]
  | punctuator mark => cases leaf
  | _ => exact leaf

/-- What starts with this parenthesis is no cast. -/
def NoCast (glyphs : List Glyph) : Prop :=
  ∀ g : Grammar Parser, g.IsDerived → ∀ context, g.castHead.Refuses context glyphs

/-- An operand starts here that no operator or cast stands before. -/
def StartsOperand (glyphs : List Glyph) : Prop :=
  ∃ first rest, glyphs = first :: rest ∧
    (first.kind.isLeaf = true ∨ (first.kind = .punctuator .leftParen ∧ NoCast glyphs))

def StartsExpression (glyphs : List Glyph) : Prop :=
  ∃ first rest, glyphs = first :: rest ∧ first.kind.startsExpression = true

theorem StartsOperand.expression {glyphs : List Glyph} (starts : StartsOperand glyphs) :
    StartsExpression glyphs := by
  obtain ⟨first, rest, rfl, leaf | ⟨paren, _⟩⟩ := starts
  · exact ⟨first, rest, rfl, TokenKind.startsExpression_of_isLeaf leaf⟩
  · exact ⟨first, rest, rfl, by rw [paren]; rfl⟩

/-- A token with which no expression starts is not the first one. -/
theorem StartsExpression.ne {first : Glyph} {rest : List Glyph} {kind : TokenKind}
    (starts : StartsExpression (first :: rest)) (other : kind.startsExpression = false) :
    first.kind ≠ kind := by
  obtain ⟨_, _, same, does⟩ := starts
  cases same
  rintro rfl
  rw [other] at does
  cases does

section

variable {nest : Nat} {glyphs rest : List Glyph} {value : Expr}

theorem unary_of_postfixed (starts : StartsOperand glyphs)
    (reads : RuleReads (fun g => g.postfixed) nest glyphs (· = value) rest) :
    RuleReads (fun g => g.unary) nest glyphs (· = value) rest := by
  intro g derived sure context room
  refine derived.symbol .unary fun inner innerDerived => ?_
  have inside := reads inner innerDerived sure context room
  refine .byPlace fun state known => ?_
  obtain ⟨first, tail, rfl, leaf | ⟨paren, _⟩⟩ := starts
  · rw [State.kind_of_glyphs known]
    cases kind : first.kind with
    | keyword word =>
      rw [kind] at leaf
      cases word <;> first | exact inside | cases leaf
    | punctuator mark =>
      rw [kind] at leaf
      cases leaf
    | _ => exact inside
  · rw [State.kind_of_glyphs known, paren]
    exact inside

theorem cast_of_unary (starts : StartsOperand glyphs)
    (reads : RuleReads (fun g => g.unary) nest glyphs (· = value) rest) :
    RuleReads (fun g => g.cast) (nest + 1) glyphs (· = value) rest := by
  intro g derived sure context room
  refine derived.symbol .cast fun inner innerDerived => ?_
  refine .nested room.fits (.byPlace fun state known => ?_)
  have inside := reads inner innerDerived sure _ room.deeper
  obtain ⟨first, tail, rfl, leaf | ⟨paren, noCast⟩⟩ := starts
  · have other : state.isAt .leftParen = false := by
      rw [State.isAt_of_glyphs known]
      cases kind : first.kind with
      | punctuator mark =>
        rw [kind] at leaf
        cases leaf
      | _ => rfl
    rw [other]
    exact inside
  · have isAt : state.isAt .leftParen = true := by
      rw [State.isAt_of_glyphs known, paren]
      rfl
    rw [isAt]
    exact .attemptNone (noCast inner innerDerived _) inside

theorem binary_of_cast {level : Nat} (reads : RuleReads (fun g => g.cast) nest glyphs (· = value) rest) :
    ReadsInto (fun g => g.binaryRule level) (fun g => g.binaryStep level) nest glyphs value rest := by
  intro g derived sure context room good last later
  exact (reads g derived sure context room).andThen (later g.fuel)

theorem RuleReads.binary {level : Nat} {good : Expr → Prop}
    (reads : RuleReads (fun g => g.binaryRule level) nest glyphs good rest) :
    RuleReads (fun g => g.binary level) nest glyphs good rest :=
  fun _ derived sure context room => derived.symbol (.binary level)
    fun inner innerDerived => reads inner innerDerived sure context room

theorem conditional_of_binary (more : rest ≠ []) (loose : tightness rest < Precedence.conditional)
    (reads : RuleReads (fun g => g.binary Precedence.logicalOr) nest glyphs (· = value) rest) :
    RuleReads (fun g => g.conditional) nest glyphs (· = value) rest := by
  intro g derived sure context room
  refine (reads g derived sure context room).andThen ?_
  obtain ⟨first, tail, rfl⟩ := List.exists_cons_of_ne_nil more
  have noQuestion : first.kind ≠ .punctuator .question := by
    intro kind
    rw [tightness_question kind] at loose
    exact absurd loose (Nat.lt_irrefl _)
  exact (Reads.missing noQuestion).andThen (.pure rfl)

theorem assignOp?_loose (loose : tightness rest < Precedence.assignment) :
    Glyph.assignOp? rest = none := by
  cases found : Glyph.assignOp? rest with
  | none => rfl
  | some pair =>
    obtain ⟨op, width⟩ := pair
    rw [tightness_of_assignOp? found] at loose
    exact absurd loose (Nat.lt_irrefl _)

theorem assignment_of_conditional (starts : glyphs.head?.map Glyph.kind ≠ some (.keyword .kwThrow))
    (some : glyphs ≠ []) (more : rest ≠ []) (loose : tightness rest < Precedence.assignment)
    (reads : RuleReads (fun g => g.conditional) nest glyphs (· = value) rest) :
    RuleReads (fun g => g.assignment) nest glyphs (· = value) rest := by
  intro g derived sure context room
  refine derived.symbol .assignment fun inner innerDerived => ?_
  obtain ⟨first, tail, rfl⟩ := List.exists_cons_of_ne_nil some
  have noThrow : first.kind ≠ .keyword .kwThrow := fun kind => starts (by rw [← kind]; rfl)
  refine (Reads.missingWord noThrow).andThen ?_
  refine (reads inner innerDerived sure context room).andThen ?_
  obtain ⟨next, behind, rfl⟩ := List.exists_cons_of_ne_nil more
  refine .byPlace fun state known => .byContext ?_
  rw [State.assignOp?_of_glyphs known room.plain, assignOp?_loose loose]
  exact .pure rfl

theorem expression_of_assignment
    (reads : RuleReads (fun g => g.assignment) nest glyphs (· = value) rest) :
    ReadsInto (fun g => g.expression) (fun g => g.commaStep) nest glyphs value rest := by
  intro g derived sure context room good last later
  exact (reads g derived sure context room).andThen (later g.fuel)

end

/-- The tokens up to the rest are a form of the expression that binds as tightly as the level. Every
rule that accepts the level reads the expression, with room for the given levels inside an operand. -/
structure ReadsAs (level nest : Nat) (value : Expr) (glyphs rest : List Glyph) : Prop where
  more : rest ≠ []
  front : ∃ front, glyphs = front ++ rest ∧ Bracketed (· ≠ .punctuator .ellipsis) front
  starts : StartsExpression glyphs
  noThrow : Precedence.conditional ≤ level →
    glyphs.head?.map Glyph.kind ≠ some (.keyword .kwThrow)
  operand : Precedence.postfixed ≤ level → StartsOperand glyphs
  postfixed : Precedence.postfixed ≤ level →
    ReadsInto (fun g => g.postfixed) (fun g => g.postfixStep) nest glyphs value rest
  cast : Precedence.unary ≤ level → tightness rest < Precedence.postfixed →
    RuleReads (fun g => g.cast) (nest + 1) glyphs (· = value) rest
  binary : ∀ lowest, Precedence.logicalOr ≤ lowest → lowest ≤ level → tightness rest ≤ level →
    tightness rest < Precedence.postfixed →
    ReadsInto (fun g => g.binaryRule lowest) (fun g => g.binaryStep lowest) (nest + 1) glyphs value rest
  assignment : Precedence.assignment ≤ level → tightness rest < Precedence.assignment →
    RuleReads (fun g => g.assignment) (nest + 1) glyphs (· = value) rest
  expression : tightness rest < Precedence.assignment →
    ReadsInto (fun g => g.expression) (fun g => g.commaStep) (nest + 1) glyphs value rest

namespace ReadsAs

variable {level nest : Nat} {value : Expr} {glyphs rest : List Glyph}

theorem glyphs_ne_nil (reads : ReadsAs level nest value glyphs rest) : glyphs ≠ [] := by
  obtain ⟨first, tail, rfl, _⟩ := reads.starts
  exact List.cons_ne_nil first tail

theorem mono {deeper : Nat} (reads : ReadsAs level nest value glyphs rest) (le : nest ≤ deeper) :
    ReadsAs level deeper value glyphs rest where
  more := reads.more
  front := reads.front
  starts := reads.starts
  noThrow := reads.noThrow
  operand := reads.operand
  postfixed tight := (reads.postfixed tight).mono le
  cast tight loose := (reads.cast tight loose).mono (Nat.succ_le_succ le)
  binary lowest low tight follows loose :=
    (reads.binary lowest low tight follows loose).mono (Nat.succ_le_succ le)
  assignment tight loose := (reads.assignment tight loose).mono (Nat.succ_le_succ le)
  expression loose := (reads.expression loose).mono (Nat.succ_le_succ le)

theorem binaryExact (reads : ReadsAs level nest value glyphs rest) {lowest : Nat}
    (low : Precedence.logicalOr ≤ lowest) (tight : lowest ≤ level) (loose : tightness rest < lowest)
    (noPostfix : tightness rest < Precedence.postfixed) :
    RuleReads (fun g => g.binary lowest) (nest + 1) glyphs (· = value) rest :=
  ((reads.binary lowest low tight (by omega) noPostfix).stop
    (stopsBefore_binary reads.more loose)).binary

theorem conditional (reads : ReadsAs level nest value glyphs rest)
    (tight : Precedence.logicalOr ≤ level) (loose : tightness rest < Precedence.conditional) :
    RuleReads (fun g => g.conditional) (nest + 1) glyphs (· = value) rest := by
  refine conditional_of_binary reads.more loose (reads.binaryExact (Nat.le_refl _) tight ?_ ?_)
  · exact Nat.lt_trans loose (by decide)
  · exact Nat.lt_trans loose (by decide)

/-- An assignment with or without comma operators behind it. -/
theorem ofAssignment (more : rest ≠ [])
    (front : ∃ front, glyphs = front ++ rest ∧ Bracketed (· ≠ .punctuator .ellipsis) front)
    (starts : StartsExpression glyphs)
    (noThrow : Precedence.conditional ≤ level →
      glyphs.head?.map Glyph.kind ≠ some (.keyword .kwThrow))
    (loosely : level < Precedence.logicalOr)
    (reads : tightness rest < Precedence.assignment →
      RuleReads (fun g => g.assignment) (nest + 1) glyphs (· = value) rest) :
    ReadsAs level nest value glyphs rest where
  more := more
  front := front
  starts := starts
  noThrow := noThrow
  operand tight := absurd (Nat.lt_of_le_of_lt tight loosely) (by decide)
  postfixed tight := absurd (Nat.lt_of_le_of_lt tight loosely) (by decide)
  cast tight := absurd (Nat.lt_of_le_of_lt tight loosely) (by decide)
  binary _ low tight := absurd (Nat.lt_of_le_of_lt (Nat.le_trans low tight) loosely) (by decide)
  assignment _ loose := reads loose
  expression loose := expression_of_assignment (reads loose)

private theorem assignment_of_binary (more : rest ≠ []) (starts : StartsExpression glyphs)
    (noThrow : glyphs.head?.map Glyph.kind ≠ some (.keyword .kwThrow))
    (loose : tightness rest < Precedence.assignment)
    (reads : ReadsInto (fun g => g.binaryRule Precedence.logicalOr)
      (fun g => g.binaryStep Precedence.logicalOr) nest glyphs value rest) :
    RuleReads (fun g => g.assignment) nest glyphs (· = value) rest := by
  have nonempty : glyphs ≠ [] := by
    obtain ⟨first, tail, rfl, _⟩ := starts
    exact List.cons_ne_nil first tail
  refine assignment_of_conditional noThrow nonempty more loose (conditional_of_binary more ?_ ?_)
  · exact Nat.lt_trans loose (by decide)
  · exact (reads.stop (stopsBefore_binary more (Nat.lt_trans loose (by decide)))).binary

/-- Operators between operands. -/
theorem ofBinary (more : rest ≠ [])
    (front : ∃ front, glyphs = front ++ rest ∧ Bracketed (· ≠ .punctuator .ellipsis) front)
    (starts : StartsExpression glyphs)
    (noThrow : glyphs.head?.map Glyph.kind ≠ some (.keyword .kwThrow))
    (tightly : Precedence.logicalOr ≤ level) (loosely : level < Precedence.unary)
    (reads : ∀ lowest, Precedence.logicalOr ≤ lowest → lowest ≤ level → tightness rest ≤ level →
      tightness rest < Precedence.postfixed →
      ReadsInto (fun g => g.binaryRule lowest) (fun g => g.binaryStep lowest) (nest + 1) glyphs value
        rest) :
    ReadsAs level nest value glyphs rest := by
  have assigned : tightness rest < Precedence.assignment →
      RuleReads (fun g => g.assignment) (nest + 1) glyphs (· = value) rest := by
    intro loose
    have loose' : tightness rest < 2 := loose
    have tightly' : 4 ≤ level := tightly
    refine assignment_of_binary more starts noThrow loose
      (reads _ (Nat.le_refl _) tightly (by omega) (Nat.lt_trans loose (by decide)))
  exact {
    more, front, starts
    noThrow := fun _ => noThrow
    operand := fun tight => absurd (Nat.lt_of_le_of_lt tight loosely) (by decide)
    postfixed := fun tight => absurd (Nat.lt_of_le_of_lt tight loosely) (by decide)
    cast := fun tight => absurd (Nat.lt_of_le_of_lt tight loosely) (Nat.lt_irrefl _)
    binary := reads
    assignment := fun _ => assigned
    expression := fun loose => expression_of_assignment (assigned loose) }

/-- An operator before an operand. -/
theorem ofCast (more : rest ≠ [])
    (front : ∃ front, glyphs = front ++ rest ∧ Bracketed (· ≠ .punctuator .ellipsis) front)
    (starts : StartsExpression glyphs)
    (noThrow : glyphs.head?.map Glyph.kind ≠ some (.keyword .kwThrow))
    (reads : tightness rest < Precedence.postfixed →
      RuleReads (fun g => g.cast) (nest + 1) glyphs (· = value) rest) :
    ReadsAs Precedence.unary nest value glyphs rest where
  more := more
  front := front
  starts := starts
  noThrow _ := noThrow
  operand tight := absurd tight (by decide)
  postfixed tight := absurd tight (by decide)
  cast _ := reads
  binary _ _ _ _ noPostfix := binary_of_cast (reads noPostfix)
  assignment _ loose := assignment_of_binary more starts noThrow loose
    (binary_of_cast (reads (Nat.lt_trans loose (by decide))))
  expression loose := expression_of_assignment (assignment_of_binary more starts noThrow loose
    (binary_of_cast (reads (Nat.lt_trans loose (by decide)))))

/-- An operand, which something may be appended to. -/
theorem ofPostfixed (more : rest ≠ [])
    (front : ∃ front, glyphs = front ++ rest ∧ Bracketed (· ≠ .punctuator .ellipsis) front)
    (starts : StartsOperand glyphs)
    (reads : ReadsInto (fun g => g.postfixed) (fun g => g.postfixStep) nest glyphs value rest) :
    ReadsAs level nest value glyphs rest := by
  have noThrow : glyphs.head?.map Glyph.kind ≠ some (.keyword .kwThrow) := by
    obtain ⟨first, tail, rfl, leaf | ⟨paren, _⟩⟩ := starts
    · intro throws
      simp only [List.head?_cons, Option.map_some, Option.some.injEq] at throws
      rw [throws] at leaf
      cases leaf
    · simp [paren]
  have casts : tightness rest < Precedence.postfixed →
      RuleReads (fun g => g.cast) (nest + 1) glyphs (· = value) rest := fun loose =>
    cast_of_unary starts (unary_of_postfixed starts (reads.stop (stopsBefore_appending more loose)))
  have asCast := ofCast more front starts.expression noThrow casts
  exact {
    more, front
    starts := starts.expression
    noThrow := fun _ => noThrow
    operand := fun _ => starts
    postfixed := fun _ => reads
    cast := fun _ => casts
    binary := fun _ _ _ _ noPostfix => binary_of_cast (casts noPostfix)
    assignment := fun _ => asCast.assignment (by decide)
    expression := asCast.expression }

end ReadsAs

end CppSyntax
