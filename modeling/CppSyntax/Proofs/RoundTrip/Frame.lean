import CppSyntax.Proofs.Commented.Writing
import CppSyntax.Proofs.Declarator.Spaces
import CppSyntax.Proofs.RoundTrip.Lines
import CppSyntax.Proofs.Statement.Forms
import CppSyntax.Proofs.Statement.Writing

/-!
What surrounds statements and expressions: a function without parameters around statements, and a variable
of a builtin type around the expression that it starts as. What stands inside decides what is read back.
-/

namespace CppSyntax

open CppSyntax.Parser Grammar

/-- The signature of a function without parameters. -/
def Tree.plainSignature : Tree .signature :=
  .signature (.parameterList .nil false) .none none .absent .absent

section

variable {context : Context} {sure : Prop} {joint closed : Bool} {g : Grammar Parser} {opening : Glyph}
  {rest : List Glyph}

/-- Nothing but an empty list of parameters stands behind the name. -/
private theorem headSuffixes_read (opens : opening.kind = .punctuator .leftBrace)
    (derived : g.IsDerived) (room : Room sure context 0) :
    (g.declaratorSuffixes .named).Reads context sure (⟨.punctuator .leftParen, joint⟩ ::
      ⟨.punctuator .rightParen, closed⟩ :: opening :: rest) (· = [.functionSuffix .plainSignature])
      (opening :: rest) := by
  obtain ⟨_, spaced⟩ := opening
  obtain rfl := opens
  have suffix : (Tree.functionSuffix .plainSignature).IsReadSuffix 0 :=
    functionSuffix_isRead false nofun
  have each : ∀ suffix ∈ (Trees.cons (Tree.functionSuffix .plainSignature) .nil).toList,
      suffix.IsReadSuffix 0 := List.forall_mem_singleton.mpr suffix
  have parentheses : OfKinds (Trees.cons (Tree.functionSuffix .plainSignature) .nil).kinds.flatten
      [⟨.punctuator .leftParen, joint⟩, ⟨.punctuator .rightParen, closed⟩] := rfl
  have ends : EndsDeclarator (⟨.punctuator .leftBrace, spaced⟩ :: rest) := ⟨_, _, _, rfl, by decide⟩
  exact declaratorSuffixes_reads each parentheses ends .named g derived sure context room

private theorem virtualWords_reads_nothing (opens : opening.kind = .punctuator .leftBrace) :
    g.virtualWords.Reads context sure (opening :: rest) (· = (false, false)) (opening :: rest) := by
  refine .stopWith ?_ g.fuel
  refine (Reads.missingIdent (by simp [opens])).andThen ?_
  exact (Reads.missingIdent (by simp [opens])).andThen (.pure rfl)

variable {nest : Nat} {body : Tree .block} {glyphs : List Glyph}

private theorem functionBody_reads (opens : opening.kind = .punctuator .leftBrace)
    (derived : g.IsDerived) (room : Room sure context nest)
    (block : ReadsErased (fun g => g.block) nest (opening :: glyphs) body rest) :
    g.functionBody.ReadsUnder State.Quiet context sure (opening :: glyphs)
      (fun found => ∃ inner, found = ([], .defined inner) ∧ inner.erase = body) rest := by
  have noAssign : opening.kind ≠ .punctuator .assign := by simp [opens]
  have noColon : opening.kind ≠ .punctuator .colon := by simp [opens]
  refine (Reads.missing noAssign).quietly.andThen ?_
  refine (Reads.missing noColon).quietly.andThen ?_
  refine .byPlace fun state _ place => ?_
  have isAt : state.isAt .leftBrace = true := by
    simp [State.isAt_of_glyphs place, opens]
  rw [isAt]
  exact (block g derived sure context room).bind fun inner same => .pure ⟨inner, rfl, same⟩

private theorem functionForm_reads (opens : opening.kind = .punctuator .leftBrace)
    (derived : g.IsDerived) (room : Room sure context nest)
    (block : ReadsErased (fun g => g.block) nest (opening :: glyphs) body rest)
    (specs : ParsedSpecifiers) (title : Name) (sig : Tree .signature) :
    (g.functionForm specs .nil title sig).ReadsUnder State.Quiet context sure (opening :: glyphs)
      (·.erase = .function specs.tree.erase .nil title.erase sig.erase false false .nil
        (.defined body)) rest := by
  have words : g.virtualWords.Reads context sure (opening :: glyphs) (· = (false, false))
      (opening :: glyphs) := virtualWords_reads_nothing opens
  refine words.quietly.andThen ?_
  refine (functionBody_reads opens derived room block).bind fun found known => .pure ?_
  obtain ⟨inner, rfl, rfl⟩ := known
  rfl

/-- The head of a function without parameters. Its tokens may stand apart or close together. -/
def headGlyphs (spaced named opened closed : Bool) : List Glyph :=
  [⟨.keyword .kwVoid, spaced⟩, ⟨.identifier "f", named⟩, ⟨.punctuator .leftParen, opened⟩,
    ⟨.punctuator .rightParen, closed⟩]

/-- A function without parameters. -/
def Tree.plainFunction (body : Tree .block) : Tree .declarationForm :=
  .function (.specifiers [] [] [] (.present (.builtinType .none ["void"]))) .nil
    (.simpleName "f") .plainSignature false false .nil (.defined body)

variable {spaced named opened closed : Bool}

private theorem simpleForm_reads (opens : opening.kind = .punctuator .leftBrace)
    (derived : g.IsDerived) (room : Room sure context (nest + 1))
    (block : ReadsErased (fun g => g.block) nest (opening :: glyphs) body rest) :
    (g.simpleForm .inNamespace).ReadsUnder State.Quiet context sure
      (headGlyphs spaced named opened closed ++ opening :: glyphs) (·.erase = .plainFunction body)
      rest := by
  have spelled : SpellWords (Qualifiers.none.before [.kwVoid]) [⟨.keyword .kwVoid, spaced⟩] := rfl
  have specs : (g.specifiers .inNamespace).Reads context sure
      (headGlyphs spaced named opened closed ++ opening :: glyphs)
      (· = ⟨[], [], [], some (.builtinType .none ["void"]), false, true⟩)
      ((headGlyphs spaced named opened closed).tail ++ opening :: glyphs) :=
    specifiers_reads spelled (by simp; rfl) (by simp) (.inr ⟨_, rfl⟩) derived
  have shape : (g.declarator .named).Reads context sure
      ((headGlyphs spaced named opened closed).tail ++ opening :: glyphs)
      (· = .declarator .nil false (.declaredName (.simpleName "f"))
        (.ofList [.functionSuffix .plainSignature])) (opening :: glyphs) :=
    declarator_reads (by simp) (by simp) derived room.fits fun _ innerDerived =>
      headSuffixes_read opens innerDerived (room.deeper.less (Nat.zero_le nest))
  refine specs.quietly.andThen ?_
  refine (Reads.missing (by simp)).quietly.andThen ?_
  refine shape.quietly.andThen ?_
  refine .byPlace fun state _ place => ?_
  have noComma : state.isAt .comma = false := by
    simp [State.isAt_of_glyphs place, opens]
  rw [noComma]
  exact functionForm_reads opens derived (room.less (Nat.le_succ nest)) block _ _ _

theorem plainFunction_reads (opens : opening.kind = .punctuator .leftBrace)
    (block : ReadsErased (fun g => g.block) nest (opening :: glyphs) body rest) :
    ReadsErased (fun g => g.declarationForm .inNamespace) (nest + 1)
      (headGlyphs spaced named opened closed ++ opening :: glyphs) (.plainFunction body) rest := by
  intro g derived sure context room
  refine .byPlace fun state _ place => ?_
  rw [State.kind_of_glyphs place]
  exact .byPlace fun _ _ _ => simpleForm_reads opens derived room block

end

/-- A unit that holds nothing but a function with the statement as its body. -/
def Tree.inFunction (body : Statement) : TranslationUnit :=
  .unit (.cons (.declaration .erased (.plainFunction (.block (.cons body .nil) []))) .nil) []

/-- A unit that holds nothing but a function returning the value. -/
def Tree.returning (value : Expr) : TranslationUnit :=
  .inFunction (.statement .erased (.returnStatement (.present value)))

open Doc Render

theorem function_text (body : Tree .block) (drawn : Doc) (layout : Layout) :
    Render.function (specifiers [] [] [] (some (qualified .none "void"))) []
      (qualifiedName false [segment false "f"])
      (signature (Render.parameterList [] false) .none none none none) false false []
      ⟨.defined body, drawn⟩ layout = "void f()" ++ drawn layout := by
  have head : (functionResult (specifiers [] [] [] (some (qualified .none "void")))
      (pointerOperators []) ++ qualifiedName false [segment false "f"] ++
      signature (Render.parameterList [] false) .none none none none ++ onlyIf false " override" ++
      onlyIf false " final") layout = "void f()" := rfl
  show _ ++ ("" ++ drawn layout) = _
  rw [head]
  simp

theorem spelled_head {rest : List Char} {glyphs : List Glyph} (later : Spelled rest glyphs) :
    ∃ spaced named opened closed,
      Spelled ("void f()".toList ++ rest) (headGlyphs spaced named opened closed ++ glyphs) := by
  obtain ⟨closed, close⟩ := later.single .rightParen ')' rfl rfl
  obtain ⟨opened, params⟩ := close.single .leftParen '(' rfl rfl
  have ends : Lexeme.NameEnds ('(' :: ')' :: rest) := (Lexeme.numberEnds_of_head (by decide)).1
  have title : Spelled ("f".toList ++ '(' :: ')' :: rest) _ := params.identifier (by decide) ends
  have head := title.wordThenSpace .kwVoid
  exact ⟨_, _, _, _, head⟩

/-- A function around statements is read as one around what they are read as. -/
theorem Tree.plainFunction_rereads {sure : Prop} {nest : Nat} {statements : Trees .statement}
    {expect : Statement → Statement}
    (stated : ∀ body ∈ statements.toList, body.StatedAs nest (expect body)) :
    (Tree.plainFunction (.block statements [])).Rereads sure (nest + 1)
      (.plainFunction (.block (.ofList (statements.toList.map expect)) [])) := by
  refine ⟨rfl, fun layout rest behind more spelled => ?_⟩
  obtain ⟨joint, glyphs, written, reads⟩ := block_written stated layout _ _ spelled.lineBreak more
  obtain ⟨spaced, named, opened, closed, whole⟩ := spelled_head (written.beforeBrace layout)
  have text : (Tree.plainFunction (.block statements [])).drawing layout =
      "void f()" ++ (beforeBrace ++ Render.block statements.drawn []) layout :=
    function_text (.block statements []) _ layout
  refine ⟨headGlyphs spaced named opened closed ++ ⟨.punctuator .leftBrace, joint⟩ :: glyphs, ?_,
    ⟨_, _, rfl, by simp, by simp⟩, fun g derived => plainFunction_reads rfl reads g derived sure⟩
  rw [lineText_eq rfl, text]
  simpa using whole

/-- A function around a statement that is read as one of the given structure is read as the function
around it. There is no error unless the levels inside the statement exceed the limit. -/
theorem Tree.Stated.roundtrip {place : Placement} {form shape : Tree .statementForm} {nest : Nat}
    (stated : Tree.Stated nest form shape) (bare : (Tree.statement place form).IsBare)
    (options : RenderOptions) :
    (∃ again, parse (render options (.inFunction (.statement place form))) = .ok again ∧
      again.erase = .inFunction (.statement .erased shape)) ∨
    (nestingLimit < nest + 2 ∧
      ∃ error, parse (render options (.inFunction (.statement place form))) = .error error) := by
  have row : ∀ body ∈ (Trees.cons (.statement place form) .nil).toList,
      body.StatedAs nest ((fun _ => .statement .erased shape) body) :=
    List.forall_mem_singleton.mpr ⟨place, form, shape, rfl, rfl, bare, stated⟩
  let inner : Declaration :=
    .declaration .erased (.plainFunction (.block (.cons (.statement place form) .nil) []))
  let outcome : Tree .declarationForm :=
    .plainFunction (.block (.cons (.statement .erased shape) .nil) [])
  have alone : inner.RereadsAlone (nest + 2 ≤ nestingLimit) (nest + 1) outcome :=
    ⟨_, _, _, rfl, Tree.plainFunction_rereads row⟩
  have each : List.Forall₂ (Tree.RereadsAlone _ _) (Trees.cons inner .nil).toList [outcome] :=
    .cons alone .nil
  have answers := Tree.reread_unit each id options
  rwa [Nat.not_le] at answers

/-- In every layout the text of the expression, as an operand before a semicolon, is a form of it. -/
def Tree.StandsLast (nest : Nat) (value : Expr) : Prop :=
  ∀ (level : Nat) (layout : Layout) (rest : List Char) (joint : Bool) (behind : List Glyph),
    level ≤ Precedence.postfixed → behind ≠ [] →
    Spelled (';' :: rest) (⟨.punctuator .semicolon, joint⟩ :: behind) →
    ∃ tight glyphs, level ≤ tight ∧
      Spelled ((Drawn.operand ⟨value, value.drawing⟩ level layout).toList ++ ';' :: rest) glyphs ∧
      ReadsAs tight nest value glyphs (⟨.punctuator .semicolon, joint⟩ :: behind)

theorem Tree.StandsLast.mono {nest deep : Nat} {value : Expr} (last : StandsLast nest value)
    (le : nest ≤ deep) : StandsLast deep value := by
  intro level layout rest joint behind low more ensues
  obtain ⟨tight, glyphs, holds, spelled, reads⟩ := last level layout rest joint behind low more ensues
  exact ⟨tight, glyphs, holds, spelled, reads.mono le⟩

theorem tightness_semicolon {joint : Bool} {behind : List Glyph} :
    tightness (⟨.punctuator .semicolon, joint⟩ :: behind) < Precedence.comma := by
  rw [tightness_ends rfl rfl]
  decide

/-- The text that returns such an expression is read as returning it. -/
theorem Tree.StandsLast.returned {nest : Nat} {value : Expr} (last : StandsLast nest value) :
    Stated (nest + 2) (.returnStatement (.present value)) (.returnStatement (.present value.erase)) := by
  intro layout rest behind ensues
  obtain ⟨closed, close⟩ := ensues.spelled.single .semicolon ';' rfl rfl
  obtain ⟨_, glyphs, _, spelled, reads⟩ :=
    last Precedence.comma layout rest closed behind (by decide) ensues.more close
  have whole := spelled.wordThenSpace .kwReturn
  refine ⟨⟨.keyword .kwReturn, false⟩, glyphs, ?_, rfl,
    .returning ensues.more reads.starts (reads.whole tightness_semicolon)⟩
  show Spelled (("return" ++ (" " ++ Drawn.operand _ _ layout) ++ ";").toList ++ rest) _
  simpa [Keyword.spelling] using whole

/-- A variable of a builtin type that starts as a value. -/
def Tree.initialized (cv : Qualifiers) (words : List Keyword) (ident : String) (value : Expr) :
    Tree .declarationForm :=
  .variable (.builtinSpecifiers cv words)
    (.cons (.initDeclarator (.namedDeclarator ident) .absent (.present (.assignInit value))) .nil)

section

variable {cv : Qualifiers} {words : List Keyword} {ident : String} {value : Expr} {nest : Nat}
  {context : Context} {sure : Prop} {g : Grammar Parser} {type glyphs rest : List Glyph}
  {named joint closed : Bool}

theorem initialized_text (cv : Qualifiers) (nonempty : words ≠ []) (valid : isIdentifier ident = true)
    (value : Expr) (layout : Layout) (rest : List Char) :
    ((Tree.initialized cv words ident value).lineText layout).toList ++ rest =
      (IsWritten.builtinText cv words).toList ++ ' ' :: (ident.toList ++ ' ' ::
        (Punctuator.assign.spelling.toList ++ ' ' ::
          ((Drawn.operand ⟨value, value.drawing⟩ Precedence.assignment layout).toList ++ ';' :: rest))) := by
  have drawn : (Tree.initialized cv words ident value).lineText layout =
      DeclaratorDoc.afterSpecifiers (Tree.builtinSpecifiers cv words).drawing
        (Tree.namedDeclarator ident).drawing layout ++ "" ++ (" = " ++
          Drawn.operand ⟨value, value.drawing⟩ Precedence.assignment layout) ++ "" ++ ";" := rfl
  have head : DeclaratorDoc.afterSpecifiers (Tree.builtinSpecifiers cv words).drawing
      (Tree.namedDeclarator ident).drawing layout = IsWritten.builtinText cv words ++ (" " ++ ident) := by
    have specs : (Tree.builtinSpecifiers cv words).drawing layout = IsWritten.builtinText cv words := by
      rw [← IsWritten.builtinType_drawing cv nonempty layout]
      rfl
    rw [DeclaratorDoc.afterSpecifiers, specs, Tree.builtinText_isEmpty cv nonempty,
      ← afterType_named valid layout]
    rfl
  rw [drawn, head]
  simp [Punctuator.spelling]

private theorem initDeclarators_reads_value {scope : Scope} {shape : Declarator}
    (noClass : scope ≠ .inClass)
    (reads : RuleReads (fun g => g.clause) nest glyphs (· = value)
      (⟨.punctuator .semicolon, closed⟩ :: rest))
    (nonempty : glyphs ≠ []) (derived : g.IsDerived) (room : Room sure context nest) :
    (g.initDeclarators scope shape).Reads context sure (⟨.punctuator .assign, joint⟩ :: glyphs)
      (· = [.initDeclarator shape .absent (.present (.assignInit value))])
      (⟨.punctuator .semicolon, closed⟩ :: rest) := by
  refine .stopWith ?_ g.fuel
  have noWidth : (g.bitWidth scope).Reads context sure (⟨.punctuator .assign, joint⟩ :: glyphs)
      (· = none) (⟨.punctuator .assign, joint⟩ :: glyphs) := by
    cases scope with
    | inClass => exact absurd rfl noClass
    | inNamespace | inBlock => exact .pure rfl
  have init : g.initializer.Reads context sure (⟨.punctuator .assign, joint⟩ :: glyphs)
      (· = some (.assignInit value)) (⟨.punctuator .semicolon, closed⟩ :: rest) := by
    refine (Reads.accept nonempty rfl).andThen ?_
    exact (reads g derived sure context room).andThen (.pure rfl)
  refine noWidth.andThen (init.andThen ?_)
  exact (Reads.missing (by simp)).andThen (.pure rfl)

private theorem SpellWords.startsType (spelled : SpellWords (cv.before words) type)
    (builtin : ∀ word ∈ words, word.isBuiltinType = true) (nonempty : words ≠ []) :
    ∃ word joint tail, type = ⟨.keyword word, joint⟩ :: tail ∧ word.isTypeWord = true := by
  obtain ⟨word, others, front⟩ := exists_first_word cv nonempty
  have kinds : OfKinds (.keyword word :: others.map .keyword) type := by
    rw [OfKinds, ← List.map_cons, ← front]
    exact spelled
  obtain ⟨joint, tail, rfl, _⟩ := OfKinds.of_cons kinds
  exact ⟨word, joint, tail, rfl, isTypeWord_of_mem_before builtin word (front ▸ List.mem_cons_self ..)⟩

/-- A variable is read with what it starts as. -/
theorem initialized_reads (spelled : SpellWords (cv.before words) type)
    (builtin : ∀ word ∈ words, word.isBuiltinType = true) (nonempty : words ≠ [])
    (reads : RuleReads (fun g => g.clause) nest glyphs (· = value)
      (⟨.punctuator .semicolon, closed⟩ :: rest)) (any : glyphs ≠ []) (more : rest ≠ []) :
    RuleReads (fun g => g.declarationForm .inNamespace) (nest + 1)
      (type ++ ⟨.identifier ident, named⟩ :: ⟨.punctuator .assign, joint⟩ :: glyphs)
      (· = .initialized cv words ident value) rest := by
  intro g derived sure context room
  let tail : List Glyph := ⟨.identifier ident, named⟩ :: ⟨.punctuator .assign, joint⟩ :: glyphs
  have specs : (g.specifiers .inNamespace).Reads context sure (type ++ tail)
      (· = ⟨[], [], [], some (.builtinType cv (words.map Keyword.spelling)), false, true⟩) tail :=
    specifiers_reads spelled builtin nonempty (.inr ⟨ident, rfl⟩) derived
  have shape : (g.declarator .named).Reads context sure tail (· = .namedDeclarator ident)
      (⟨.punctuator .assign, joint⟩ :: glyphs) :=
    declarator_reads (by simp) (by simp) derived room.fits fun inner _ =>
      declaratorSuffixes_reads_nothing (by simp) (by simp)
  have simple : (g.simpleForm .inNamespace).Reads context sure (type ++ tail)
      (· = .initialized cv words ident value) rest := by
    refine specs.andThen ?_
    refine (Reads.missing (by simp)).andThen ?_
    refine shape.andThen ?_
    have inits : (g.initDeclarators .inNamespace (.namedDeclarator ident)).Reads context sure
        (⟨.punctuator .assign, joint⟩ :: glyphs) (· = _) (⟨.punctuator .semicolon, closed⟩ :: rest) :=
      initDeclarators_reads_value (by simp) reads any derived (room.less (Nat.le_succ nest))
    exact inits.andThen ((Reads.expect more rfl).bind fun _ _ => .pure rfl)
  obtain ⟨word, _, _, rfl, isType⟩ := spelled.startsType builtin nonempty
  refine .byPlace fun state known => ?_
  rw [State.kind_of_glyphs known]
  refine .byPlace fun _ _ => ?_
  cases word <;> first | exact simple | cases isType

/-- The declaration of a variable is read back if what the variable starts as is. -/
theorem Tree.StandsLast.initialized (last : StandsLast nest value)
    (builtin : ∀ word ∈ words, word.isBuiltinType = true) (nonempty : words ≠ [])
    (valid : isIdentifier ident = true) :
    (Tree.initialized cv words ident value).Rereads sure (nest + 2)
      (.initialized cv words ident value.erase) := by
  refine ⟨rfl, fun layout rest behind more spelled => ?_⟩
  obtain ⟨closed, close⟩ := spelled.lineBreak.single .semicolon ';' rfl rfl
  obtain ⟨_, glyphs, tight, written, reads⟩ :=
    last Precedence.assignment layout _ closed behind (by decide) more close
  have marked := (written.markThenSpace .assign).space
  have named := (marked.identifier valid (Lexeme.numberEnds_of_head (by decide)).1).space
  obtain ⟨type, typeWords, typed⟩ :=
    IsWritten.words_spelled (cv.before words) (Lexeme.numberEnds_of_head (by decide)).1 named
  have loose : tightness (⟨.punctuator .semicolon, closed⟩ :: behind) < Precedence.assignment :=
    Nat.lt_trans tightness_semicolon (by decide)
  have any : glyphs ≠ [] := by
    obtain ⟨_, _, rfl, _⟩ := reads.starts
    exact List.cons_ne_nil _ _
  rw [initialized_text cv nonempty valid]
  refine ⟨_, typed, ?_, fun g derived context room => ?_⟩
  · obtain ⟨word, _, _, rfl, _⟩ := typeWords.startsType builtin nonempty
    exact ⟨_, _, rfl, by simp, by simp⟩
  · refine .mono (Reads.quietly (initialized_reads typeWords builtin nonempty
      (reads.clause_reads tight loose) any more g derived sure context room)) ?_
    rintro _ rfl
    rfl

end

end CppSyntax
