import CppSyntax.Proofs.Declarator.Tokens
import CppSyntax.Proofs.Parsing.Names

/-!
Rows of pointers with at most one reference behind them: how they are written, and that they are read
back up to what they stand before.
-/

namespace CppSyntax

open CppSyntax.Parser Grammar Doc

/-- Pointers in a row, and behind them one reference or none. -/
inductive Trees.PointerRow : Trees .pointerOperator → Prop where
  | nil : PointerRow .nil
  | pointer (cv : Qualifiers) {row : Trees .pointerOperator} (later : PointerRow row) :
      PointerRow (.cons (.pointer cv) row)
  | lvalue : PointerRow (.cons .lvalueReference .nil)
  | rvalue : PointerRow (.cons .rvalueReference .nil)

theorem trailingQualifiers_text (cv : Qualifiers) (layout : Layout) :
    Render.trailingQualifiers cv layout =
      (if cv.isConst then " const" else "") ++ (if cv.isVolatile then " volatile" else "") :=
  rfl

theorem Qualifiers.spelled (cv : Qualifiers) (layout : Layout) {rest : List Char} {glyphs : List Glyph}
    (ends : cv ≠ .none → Lexeme.NameEnds rest) (later : Spelled rest glyphs) :
    ∃ front, OfKinds cv.kinds front ∧
      Spelled ((Render.trailingQualifiers cv layout).toList ++ rest) (front ++ glyphs) := by
  obtain ⟨isConst, isVolatile⟩ := cv
  have apart (text : List Char) : Lexeme.NameEnds (' ' :: text) :=
    (Lexeme.numberEnds_of_head (by decide)).1
  rw [trailingQualifiers_text]
  cases isConst <;> cases isVolatile
  · exact ⟨[], rfl, later⟩
  · have final := (later.word .kwVolatile (ends (by decide))).space
    exact ⟨[⟨.keyword .kwVolatile, _⟩], rfl, by simpa [Keyword.spelling] using final⟩
  · have final := (later.word .kwConst (ends (by decide))).space
    exact ⟨[⟨.keyword .kwConst, _⟩], rfl, by simpa [Keyword.spelling] using final⟩
  · have final := (later.word .kwVolatile (ends (by decide))).space
    have both := (final.word .kwConst (apart _)).space
    exact ⟨[⟨.keyword .kwConst, _⟩, ⟨.keyword .kwVolatile, _⟩], rfl,
      by simpa [Keyword.spelling] using both⟩

theorem endsWith_append {holds : Char → Bool} {first second : String} (more : second.toList ≠ []) :
    endsWith holds (first ++ second) = endsWith holds second := by
  rw [endsWith, String.toList_append, List.getLast?_append, List.getLast?_eq_some_getLast more,
    Option.some_or, endsWith, List.getLast?_eq_some_getLast more]

theorem pointerOperators_join {operators : List (Drawn .pointerOperator)} (layout : Layout)
    (noNames : ∀ operator ∈ operators, Render.startsWithName operator.tree = false) :
    Render.pointerOperators operators layout = String.join (operators.map (·.drawing layout)) := by
  have joined : ∀ before : String, operators.foldl (fun content operator =>
      let apart := Render.startsWithName operator.tree && endsWith isWordChar content
      content ++ (if apart then " " else "") ++ operator.drawing layout) before =
        before ++ String.join (operators.map (·.drawing layout)) := by
    induction operators with
    | nil => simp
    | cons operator operators ih =>
      intro before
      rw [List.foldl_cons, ih fun other member => noNames other (List.mem_cons_of_mem _ member)]
      simp [noNames operator (List.mem_cons_self ..), String.join_cons, String.append_assoc]
  exact (joined "").trans String.empty_append

namespace Trees.PointerRow

variable {pointers : Trees .pointerOperator}

/-- What is written of the row. -/
abbrev text (pointers : Trees .pointerOperator) (layout : Layout) : String :=
  Render.pointerOperators pointers.drawn layout

theorem text_join (row : PointerRow pointers) (layout : Layout) :
    text pointers layout = String.join (pointers.drawn.map (·.drawing layout)) := by
  refine pointerOperators_join layout ?_
  induction row with
  | nil => nofun
  | pointer cv _ ih => exact List.forall_mem_cons.mpr ⟨rfl, ih⟩
  | lvalue => exact List.forall_mem_cons.mpr ⟨rfl, nofun⟩
  | rvalue => exact List.forall_mem_cons.mpr ⟨rfl, nofun⟩

theorem text_pointer {cv : Qualifiers} (row : PointerRow pointers) (layout : Layout) :
    text (.cons (.pointer cv) pointers) layout =
      "*" ++ Render.trailingQualifiers cv layout ++ text pointers layout := by
  rw [(PointerRow.pointer cv row).text_join, row.text_join]
  exact String.join_cons

theorem text_lvalue (layout : Layout) : text (.cons .lvalueReference .nil) layout = "&" :=
  PointerRow.lvalue.text_join layout

theorem text_rvalue (layout : Layout) : text (.cons .rvalueReference .nil) layout = "&&" :=
  PointerRow.rvalue.text_join layout

/-- The characters with which pointer operators start. -/
def opensPointer (c : Char) : Bool := c == '*' || c == '&'

theorem opens (row : PointerRow pointers) (layout : Layout) :
    pointers = .nil ∨ OpensIn opensPointer (text pointers layout).toList := by
  cases row with
  | nil => exact .inl rfl
  | @pointer cv pointers later =>
    refine .inr ⟨'*', (Render.trailingQualifiers cv layout ++ text pointers layout).toList, ?_, rfl⟩
    rw [later.text_pointer]
    simp
  | lvalue => exact .inr ⟨'&', [], congrArg String.toList (text_lvalue layout), rfl⟩
  | rvalue => exact .inr ⟨'&', ['&'], congrArg String.toList (text_rvalue layout), rfl⟩

private theorem endsWith_qualifiers {cv : Qualifiers} (some : cv ≠ .none) (layout : Layout) :
    endsWith isWordChar ("*" ++ Render.trailingQualifiers cv layout) = true := by
  obtain ⟨isConst, isVolatile⟩ := cv
  cases isConst <;> cases isVolatile
  · exact absurd rfl some
  · exact (by decide : endsWith isWordChar "* volatile" = true)
  · exact (by decide : endsWith isWordChar "* const" = true)
  · exact (by decide : endsWith isWordChar "* const volatile" = true)

theorem ends_of_opensPointer {text : List Char} (opens : OpensIn opensPointer text) :
    Lexeme.NameEnds text ∧ text.head? ≠ some '=' := by
  obtain ⟨c, tail, rfl, isMark⟩ := opens
  simp only [opensPointer, Bool.or_eq_true, beq_iff_eq] at isMark
  rcases isMark with rfl | rfl <;> exact ⟨(Lexeme.numberEnds_of_head (by decide)).1, by simp⟩

private theorem qualifiers_noAssign (cv : Qualifiers) (layout : Layout) {rest : List Char}
    (noAssign : rest.head? ≠ some '=') :
    ∀ c ∈ ((Render.trailingQualifiers cv layout).toList ++ rest).head?,
      Punctuator.star.growsWith c = false := by
  obtain ⟨isConst, isVolatile⟩ := cv
  intro c head
  refine beq_eq_false_iff_ne.mpr ?_
  rintro rfl
  rw [trailingQualifiers_text] at head
  cases isConst <;> cases isVolatile <;> simp at head
  exact noAssign head

/-- A row is spelled by its tokens before what goes on neither with its last word nor with its last
mark. -/
theorem spelled (row : PointerRow pointers) (layout : Layout) {rest : List Char} {glyphs : List Glyph}
    (ends : endsWith isWordChar (text pointers layout) = true → Lexeme.NameEnds rest)
    (noAssign : rest.head? ≠ some '=') (noAmpersand : rest.head? ≠ some '&')
    (later : Spelled rest glyphs) :
    ∃ front, OfKinds pointers.kinds.flatten front ∧
      Spelled ((text pointers layout).toList ++ rest) (front ++ glyphs) := by
  induction row with
  | nil => exact ⟨[], rfl, later⟩
  | @pointer cv pointers row ih =>
    rw [row.text_pointer] at ends
    have behind : endsWith isWordChar (text pointers layout) = true → Lexeme.NameEnds rest := by
      intro ended
      refine ends ?_
      rwa [endsWith_append]
      intro none
      rw [endsWith, none] at ended
      cases ended
    obtain ⟨back, kinds, spelled⟩ := ih behind
    have inside : (cv ≠ .none → Lexeme.NameEnds ((text pointers layout).toList ++ rest)) ∧
        ((text pointers layout).toList ++ rest).head? ≠ some '=' := by
      rcases row.opens layout with rfl | opens
      · refine ⟨fun some => ends ?_, noAssign⟩
        have none : text .nil layout = "" := rfl
        rw [none, String.append_empty]
        exact endsWith_qualifiers some layout
      · have opens := ends_of_opensPointer (opens.append rest)
        exact ⟨fun _ => opens.1, opens.2⟩
    obtain ⟨words, wordKinds, qualified⟩ := cv.spelled layout inside.1 spelled
    have whole := qualified.mark .star (qualifiers_noAssign cv layout inside.2)
    rw [row.text_pointer]
    generalize Token.isJoint _ = joint at whole
    refine ⟨⟨.punctuator .star, joint⟩ :: (words ++ back), (wordKinds.append kinds).cons, ?_⟩
    simpa [Punctuator.spelling] using whole
  | lvalue =>
    rw [text_lvalue]
    refine ⟨[⟨.punctuator .ampersand, _⟩], rfl, later.mark .ampersand fun c head => ?_⟩
    have amp : c ≠ '&' := fun same => noAmpersand (same ▸ head)
    have assign : c ≠ '=' := fun same => noAssign (same ▸ head)
    simp [Punctuator.growsWith, amp, assign]
  | rvalue =>
    rw [text_rvalue]
    exact ⟨[⟨.punctuator .andAnd, _⟩], rfl, later.mark .andAnd fun _ _ => rfl⟩

end Trees.PointerRow

namespace Grammar

/-- One more qualifier, or the end of them. -/
def qualifierStep (cv : Qualifiers) : Parser (Qualifiers ⊕ Qualifiers) := do
  if ← acceptWord .kwConst then return .inl { cv with isConst := true }
  if ← acceptWord .kwVolatile then return .inl { cv with isVolatile := true }
  return .inr cv

/-- One more pointer operator, or the end of them. -/
def pointerStep (g : Grammar Parser) (found : List (Tree .pointerOperator)) :
    Parser (List (Tree .pointerOperator) ⊕ List (Tree .pointerOperator)) := do
  if ← accept .star then return .inl (found ++ [.pointer (← g.qualifiers)])
  if ← accept .ampersand then return .inl (found ++ [.lvalueReference])
  if ← accept .andAnd then return .inl (found ++ [.rvalueReference])
  let state ← here
  if state.isAtIdentifier || state.isAt .scope then
    match ← attempt g.memberPointerScope with
    | some scope => return .inl (found ++ [.memberPointer scope (← g.qualifiers)])
    | none => return .inr found
  return .inr found

end Grammar

/-- No qualifier stands at the front. -/
def NoQualifier (glyphs : List Glyph) : Prop :=
  ∃ first tail, glyphs = first :: tail ∧ first.kind ≠ .keyword .kwConst ∧
    first.kind ≠ .keyword .kwVolatile

/-- A row of pointer operators ends before these tokens. -/
structure EndsPointers (rest : List Glyph) : Prop where
  unqualified : NoQualifier rest
  stops : ∀ g : Grammar Parser, g.IsDerived → ∀ (sure : Prop) (context : Context) found,
    (g.pointerStep found).Reads context sure rest (· = .inr found) rest

namespace EndsPointers

variable {next second : Glyph} {rest : List Glyph}

theorem mark {mark : Punctuator} (kind : next.kind = .punctuator mark)
    (other : [.star, .ampersand, .andAnd, .scope].contains mark = false) :
    EndsPointers (next :: rest) := by
  simp only [List.contains_eq_mem, List.mem_cons, List.not_mem_nil, or_false, not_or,
    decide_eq_false_iff_not] at other
  obtain ⟨noStar, noAmpersand, noAnd, noScope⟩ := other
  refine ⟨⟨next, rest, rfl, by simp [kind], by simp [kind]⟩, fun g derived sure context found => ?_⟩
  refine (Reads.missing (by simpa [kind] using noStar)).andThen ?_
  refine (Reads.missing (by simpa [kind] using noAmpersand)).andThen ?_
  refine (Reads.missing (by simpa [kind] using noAnd)).andThen (.byPlace fun state known => ?_)
  have other : (state.isAtIdentifier || state.isAt .scope) = false := by
    rw [State.isAtIdentifier, State.isAt_of_glyphs known, State.kind_of_glyphs known, kind]
    simpa using noScope
  rw [other]
  exact .pure rfl

theorem name {ident : String} {joint : Bool} (noScope : second.kind ≠ .punctuator .scope)
    (noLess : second.kind ≠ .punctuator .less) :
    EndsPointers (⟨.identifier ident, joint⟩ :: second :: rest) := by
  refine ⟨⟨_, _, rfl, by simp, by simp⟩, fun g derived sure context found => ?_⟩
  refine (Reads.missing (by simp)).andThen ?_
  refine (Reads.missing (by simp)).andThen ?_
  refine (Reads.missing (by simp)).andThen (.byPlace fun state known => ?_)
  have isName : state.isAtIdentifier = true := by
    rw [State.isAtIdentifier, State.kind_of_glyphs known]
  rw [isName]
  have noMember : g.memberPointerScope.Refuses context
      (⟨.identifier ident, joint⟩ :: second :: rest) := by
    refine Refuses.behind (name_reads noScope noLess derived) fun _ _ => ?_
    exact Refuses.bind ((Reads.missing noScope).andThen (Refuses.fail _))
  exact .attemptNone noMember (.pure rfl)

end EndsPointers

section

variable {glyphs rest : List Glyph} {context : Context} {sure : Prop} {g : Grammar Parser}

/-- Qualifiers in their order are all read. -/
theorem qualifiers_reads {cv : Qualifiers} (spelled : OfKinds cv.kinds glyphs)
    (ends : NoQualifier rest) : g.qualifiers.Reads context sure (glyphs ++ rest) (· = cv) rest := by
  obtain ⟨next, tail, rfl, noConst, noVolatile⟩ := ends
  have stops (cv : Qualifiers) (fuel : Nat) :
      (iterate qualifierStep fuel cv).Reads context sure (next :: tail) (· = cv) (next :: tail) := by
    refine .stopWith ?_ fuel
    refine (Reads.missingWord noConst).andThen ?_
    exact (Reads.missingWord noVolatile).andThen (.pure rfl)
  have volatile (isConst joint : Bool) (fuel : Nat) :
      (iterate qualifierStep fuel ⟨isConst, false⟩).Reads context sure
        (⟨.keyword .kwVolatile, joint⟩ :: next :: tail) (· = ⟨isConst, true⟩) (next :: tail) := by
    refine .again ?_ (stops ⟨isConst, true⟩) fuel
    refine (Reads.missingWord (by simp)).andThen ?_
    exact (Reads.acceptWord (by simp) rfl).andThen (.pure rfl)
  have const {cv : Qualifiers} {joint : Bool} {behind : List Glyph} (more : behind ≠ [])
      (later : ∀ fuel, (iterate qualifierStep fuel ⟨true, false⟩).Reads context sure behind (· = cv)
        (next :: tail)) (fuel : Nat) :
      (iterate qualifierStep fuel ⟨false, false⟩).Reads context sure
        (⟨.keyword .kwConst, joint⟩ :: behind) (· = cv) (next :: tail) := by
    refine .again ?_ later fuel
    exact (Reads.acceptWord more rfl).andThen (.pure rfl)
  show (iterate qualifierStep g.fuel ⟨false, false⟩).Reads context sure _ _ _
  obtain ⟨isConst, isVolatile⟩ := cv
  cases isConst <;> cases isVolatile
  · obtain rfl := OfKinds.of_nil spelled
    exact stops _ _
  · obtain ⟨joint, _, rfl, none⟩ := OfKinds.of_cons spelled
    obtain rfl := OfKinds.of_nil none
    exact volatile false joint _
  · obtain ⟨joint, _, rfl, none⟩ := OfKinds.of_cons spelled
    obtain rfl := OfKinds.of_nil none
    exact const (by simp) (stops _) _
  · obtain ⟨joint, _, rfl, later⟩ := OfKinds.of_cons spelled
    obtain ⟨second, _, rfl, none⟩ := OfKinds.of_cons later
    obtain rfl := OfKinds.of_nil none
    exact const (by simp) (volatile true second) _

namespace Trees.PointerRow

variable {pointers : Trees .pointerOperator}

/-- What the tokens of a row start with. -/
theorem front (row : PointerRow pointers) (spelled : OfKinds pointers.kinds.flatten glyphs) :
    pointers = .nil ∧ glyphs = [] ∨ ∃ first tail, glyphs = first :: tail ∧
      ∃ mark, first.kind = .punctuator mark ∧ [Punctuator.star, .ampersand, .andAnd].contains mark := by
  have opens (mark : Punctuator) (isMark : [Punctuator.star, .ampersand, .andAnd].contains mark = true)
      {kinds : List TokenKind} (spelled : OfKinds (.punctuator mark :: kinds) glyphs) :
      ∃ first tail, glyphs = first :: tail ∧ ∃ mark, first.kind = .punctuator mark ∧
        [Punctuator.star, .ampersand, .andAnd].contains mark := by
    obtain ⟨joint, tail, rfl, _⟩ := OfKinds.of_cons spelled
    exact ⟨_, tail, rfl, mark, rfl, isMark⟩
  cases row with
  | nil => exact .inl ⟨rfl, OfKinds.of_nil spelled⟩
  | pointer cv later => exact .inr (opens .star rfl spelled)
  | lvalue => exact .inr (opens .ampersand rfl spelled)
  | rvalue => exact .inr (opens .andAnd rfl spelled)

private theorem loop_reads (row : PointerRow pointers) (spelled : OfKinds pointers.kinds.flatten glyphs)
    (ends : EndsPointers rest) (derived : g.IsDerived) (found : List (Tree .pointerOperator))
    (fuel : Nat) :
    (iterate g.pointerStep fuel found).Reads context sure (glyphs ++ rest)
      (· = found ++ pointers.toList) rest := by
  have stops (found : List (Tree .pointerOperator)) (fuel : Nat) :
      (iterate g.pointerStep fuel found).Reads context sure rest (· = found) rest :=
    .stopWith (ends.stops g derived sure context found) fuel
  have more : rest ≠ [] := by
    obtain ⟨next, tail, rfl, _⟩ := ends.unqualified
    exact List.cons_ne_nil next tail
  induction row generalizing glyphs found fuel with
  | nil =>
    obtain rfl := OfKinds.of_nil spelled
    simpa [Trees.toList] using stops found fuel
  | @pointer cv pointers row ih =>
    obtain ⟨joint, _, rfl, later⟩ := OfKinds.of_cons spelled
    obtain ⟨words, back, rfl, qualified, behind⟩ := OfKinds.of_append later
    have unqualified : NoQualifier (back ++ rest) := by
      rcases row.front behind with ⟨_, rfl⟩ | ⟨first, tail, rfl, mark, kind, _⟩
      · exact ends.unqualified
      · exact ⟨first, tail ++ rest, rfl, by simp [kind], by simp [kind]⟩
    have step : (g.pointerStep found).Reads context sure
        (⟨.punctuator .star, joint⟩ :: (words ++ back) ++ rest)
        (· = .inl (found ++ [.pointer cv])) (back ++ rest) := by
      refine (Reads.accept (by simp [more]) rfl).andThen ?_
      have read : g.qualifiers.Reads context sure (words ++ back ++ rest) (· = cv) (back ++ rest) :=
        List.append_assoc .. ▸ qualifiers_reads qualified unqualified
      exact read.andThen (.pure rfl)
    refine .again step (fun fuel => ?_) fuel
    exact (ih behind (found ++ [.pointer cv]) fuel).mono fun all same => by
      simpa [Trees.toList] using same
  | lvalue =>
    obtain ⟨joint, _, rfl, none⟩ := OfKinds.of_cons spelled
    obtain rfl := OfKinds.of_nil none
    refine .again ?_ (stops (found ++ [.lvalueReference])) fuel
    refine (Reads.missing (by simp)).andThen ?_
    exact (Reads.accept more rfl).andThen (.pure rfl)
  | rvalue =>
    obtain ⟨joint, _, rfl, none⟩ := OfKinds.of_cons spelled
    obtain rfl := OfKinds.of_nil none
    refine .again ?_ (stops (found ++ [.rvalueReference])) fuel
    refine (Reads.missing (by simp)).andThen ?_
    refine (Reads.missing (by simp)).andThen ?_
    exact (Reads.accept more rfl).andThen (.pure rfl)

/-- A row of pointer operators is read as it is. -/
theorem reads (row : PointerRow pointers) (spelled : OfKinds pointers.kinds.flatten glyphs)
    (ends : EndsPointers rest) (derived : g.IsDerived) :
    g.pointerOperators.Reads context sure (glyphs ++ rest) (· = pointers.toList) rest :=
  loop_reads row spelled ends derived [] g.fuel

end Trees.PointerRow

end

end CppSyntax
