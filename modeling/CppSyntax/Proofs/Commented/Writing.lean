import CppSyntax.Proofs.Lexing.Lines
import CppSyntax.Proofs.Parsing.Names
import CppSyntax.Render.Unit
import Mathlib.Data.List.Forall2

/-!
The tokens that declarations with comments are written as. What the lines of a text hold is known token
by token, with the comments that belong to each.
-/

namespace CppSyntax

open Doc Render

/-- The word that an access label starts with. -/
def Access.keyword : Access → Keyword
  | .isPublic => .kwPublic
  | .isProtected => .kwProtected
  | .isPrivate => .kwPrivate

/-- The word that the head of a class starts with. -/
def ClassKey.keyword : ClassKey → Keyword
  | .classKey => .kwClass
  | .structKey => .kwStruct
  | .unionKey => .kwUnion

/-- A variable of type `int`. -/
def Tree.integerVariable (ident : String) : Tree .declarationForm :=
  .variable (.specifiers [] [] [] (.present (.builtinType .none ["int"])))
    (.cons (.initDeclarator (.namedDeclarator ident) .absent .absent) .nil)

/-- A class with a simple name and no bases. -/
def Tree.plainClass (key : ClassKey) (ident : String) (isFinal : Bool) (members : Trees .declaration)
    (closing : List String) : Tree .declarationForm :=
  .classDeclaration
    (.classSpecifier key [] [] (.present (.simpleName ident)) isFinal .nil members closing)

namespace Token

/-- The mark at the end of a declaration, which the comment behind it belongs to. -/
def ending (mark : Punctuator) (comment : Option String) : Token :=
  { plain (.punctuator mark) false with trailingComment := comment }

def ofVariable (ident : String) (comment : Option String) : List Token :=
  [plain (.keyword .kwInt) false, plain (.identifier ident) true, ending .semicolon comment]

def ofLabel (access : Access) (comment : Option String) : List Token :=
  [plain (.keyword access.keyword) true, ending .colon comment]

/-- The identifiers of a path with the marks between them. -/
def ofPath : List String → List Token
  | [] => []
  | [ident] => [plain (.identifier ident) false]
  | ident :: next :: rest =>
    plain (.identifier ident) true :: plain (.punctuator .scope) true :: ofPath (next :: rest)

/-- The head of a namespace up to its opening brace. -/
def ofNamespaceHead (isInline : Bool) (path : List String) : List Token :=
  (if isInline then [plain (.keyword .kwInline) false] else []) ++
    plain (.keyword .kwNamespace) false :: (ofPath path ++ [plain (.punctuator .leftBrace) false])

/-- The head of a class up to its opening brace. -/
def ofClassHead (key : ClassKey) (ident : String) (isFinal : Bool) : List Token :=
  plain (.keyword key.keyword) false :: plain (.identifier ident) false ::
    ((if isFinal then [plain (.identifier "final") false] else []) ++
      [plain (.punctuator .leftBrace) false])

def ofNamespace (isInline : Bool) (path : List String) (members : List Token)
    (closing : List String) (comment : Option String) : List Token :=
  ofNamespaceHead isInline path ++ members ++ ledBy closing false [ending .rightBrace comment]

def ofClass (key : ClassKey) (ident : String) (isFinal : Bool) (members : List Token)
    (closing : List String) (comment : Option String) : List Token :=
  ofClassHead key ident isFinal ++ members ++
    ledBy closing false [plain (.punctuator .rightBrace) true, ending .semicolon comment]

end Token

section

variable {afterToken : Bool} {rest : List Char} {comment : Option String} {tokens : List Token}
  {closing : List String} {kind : TokenKind}

theorem LexedLines.comments (areComments : ∀ comment ∈ closing, IsComment comment)
    (layout : Layout) (later : LexedLines afterToken rest tokens) :
    LexedLines afterToken ((commentLines closing layout).toList ++ rest)
      (Token.ledBy closing false tokens) := by
  induction closing with
  | nil => simpa [commentLines, Doc.concat] using later
  | cons comment comments ih =>
    have next := ih fun comment member => areComments comment (List.mem_cons_of_mem _ member)
    have line := (next.comment (areComments comment (List.mem_cons_self ..))).margin layout
    rw [Token.ledBy_ledBy] at line
    simpa [commentLines, Doc.concat] using line

theorem LexedLines.behindTrailing {trailing : Option String}
    (areComments : ∀ comment ∈ trailing, IsComment comment) (layout : Layout)
    (later : LexedLines true rest tokens) :
    LexedBehind ((Doc.trailing trailing layout).toList ++ '\n' :: rest) trailing tokens := by
  cases trailing with
  | none => exact later.onNextLine
  | some text => simpa [Doc.trailing] using later.behindComment (areComments text rfl)

theorem OpensApart.trailing (trailing : Option String) (layout : Layout) (rest : List Char) :
    OpensApart ((Doc.trailing trailing layout).toList ++ '\n' :: rest) := by
  cases trailing with
  | none => exact ⟨'\n', rest, rfl, .inr rfl⟩
  | some text => exact ⟨' ', text.toList ++ '\n' :: rest, by simp [Doc.trailing], .inl rfl⟩

theorem OpensApart.separate (opens : OpensApart rest) : Token.isJoint rest = false := by
  obtain ⟨c, tail, rfl, rfl | rfl⟩ := opens <;> rfl

/-- The text of a form is written as the tokens, the last of which takes a comment behind it. -/
def HoldsForm (text : List Char) (tokens : Option String → List Token) : Prop :=
  ∀ (afterToken : Bool) (rest : List Char) (comment : Option String) (following : List Token),
    OpensApart rest → LexedBehind rest comment following →
      LexedLines afterToken (text ++ rest) (tokens comment ++ following)

/-- A mark that what follows does not lengthen. -/
theorem TokenKind.readsBefore_apart (mark : Punctuator) (opens : OpensApart rest) :
    ∃ first more, (TokenKind.punctuator mark).ReadsBefore first more rest := by
  refine readsBefore_punctuator ?_
  obtain ⟨c, tail, rfl, rfl | rfl⟩ := opens <;> rintro _ ⟨⟩ <;> cases mark <;> rfl

theorem TokenKind.readsBefore_finished (mark : Punctuator) (finished : mark.isFinished = true) :
    ∃ first more, (TokenKind.punctuator mark).ReadsBefore first more rest :=
  readsBefore_punctuator fun _ _ => Punctuator.growsWith_of_isFinished finished

theorem LexedBehind.ending (mark : Punctuator) (opens : OpensApart rest)
    (later : LexedBehind rest comment tokens) :
    LexedBehind (mark.spelling.toList ++ rest) none (Token.ending mark comment :: tokens) := by
  have marked := LexedBehind.spelled (TokenKind.readsBefore_apart mark opens) later
  rwa [opens.separate] at marked

theorem LexedLines.ending (afterToken : Bool) (mark : Punctuator) (opens : OpensApart rest)
    (later : LexedBehind rest comment tokens) :
    LexedLines afterToken (mark.spelling.toList ++ rest) (Token.ending mark comment :: tokens) := by
  have marked := LexedLines.spelled afterToken (TokenKind.readsBefore_apart mark opens) later
  rwa [opens.separate] at marked

/-- A token apart from what follows it. -/
theorem LexedBehind.apart (reads : ∃ first more, kind.ReadsBefore first more rest)
    (opens : OpensApart rest) (later : LexedBehind rest none tokens) :
    LexedBehind (kind.spelling.toList ++ rest) none (Token.plain kind false :: tokens) := by
  have token := later.spelled reads
  rwa [opens.separate] at token

theorem LexedBehind.startsLine (afterToken : Bool)
    (reads : ∃ first more, kind.ReadsBefore first more rest) (opens : OpensApart rest)
    (later : LexedBehind rest none tokens) :
    LexedLines afterToken (kind.spelling.toList ++ rest) (Token.plain kind false :: tokens) := by
  have token := LexedLines.spelled afterToken reads later
  rwa [opens.separate] at token

theorem OpensApart.space (rest : List Char) : OpensApart (' ' :: rest) := ⟨' ', rest, rfl, .inl rfl⟩

theorem LexedBehind.wordStartsLine (afterToken : Bool) (word : Keyword) (opens : OpensApart rest)
    (later : LexedBehind rest none tokens) :
    LexedLines afterToken (word.spelling.toList ++ rest)
      (Token.plain (.keyword word) false :: tokens) :=
  later.startsLine afterToken (TokenKind.readsBefore_keyword word opens.nameEnds) opens

theorem LexedBehind.identifierApart {ident : String} (valid : isIdentifier ident = true)
    (opens : OpensApart rest) (later : LexedBehind rest none tokens) :
    LexedBehind (ident.toList ++ rest) none (Token.plain (.identifier ident) false :: tokens) :=
  later.apart (TokenKind.readsBefore_identifier valid opens.nameEnds) opens

theorem holdsForm_label (access : Access) :
    HoldsForm (access.spelling ++ ":").toList (Token.ofLabel access) := by
  intro afterToken rest comment following opens later
  have ends : Lexeme.NameEnds (':' :: rest) := (Lexeme.numberEnds_of_head (by decide)).1
  have mark : LexedBehind (':' :: rest) none _ := later.ending .colon opens
  have word := LexedLines.spelled afterToken
    (TokenKind.readsBefore_keyword access.keyword ends) mark
  have same : access.keyword.spelling = access.spelling := by cases access <;> rfl
  have text : (access.spelling ++ ":").toList ++ rest =
      (TokenKind.keyword access.keyword).spelling.toList ++ ':' :: rest := by
    simp [TokenKind.spelling, same]
  rw [text]
  exact word

theorem holdsForm_variable {ident : String} (valid : isIdentifier ident = true) :
    HoldsForm ("int " ++ ident ++ ";").toList (Token.ofVariable ident) := by
  intro afterToken rest comment following opens later
  have ends : Lexeme.NameEnds (';' :: rest) := (Lexeme.numberEnds_of_head (by decide)).1
  have mark : LexedBehind (';' :: rest) none _ := later.ending .semicolon opens
  have name := LexedBehind.spelled (TokenKind.readsBefore_identifier valid ends) mark
  have text : ("int " ++ ident ++ ";").toList ++ rest =
      Keyword.kwInt.spelling.toList ++ ' ' :: (ident.toList ++ ';' :: rest) := by
    simp [Keyword.spelling]
  rw [text]
  exact name.space.wordStartsLine afterToken .kwInt (.space _)

theorem Token.isJoint_identifier {ident : String} (valid : isIdentifier ident = true) :
    Token.isJoint (ident.toList ++ rest) = true := by
  simp only [isIdentifier, Bool.and_eq_true] at valid
  cases spelled : ident.toList with
  | nil => simp [spelled, Lexeme.isName] at valid
  | cons first more =>
    simp only [spelled, Lexeme.isName, Bool.and_eq_true] at valid
    have solid := Lexeme.isBlank_eq_false_of_isNameStart valid.1.1
    have noSlash : first ≠ '/' := by
      rintro rfl
      exact absurd valid.1.1 (by decide)
    simp [Token.isJoint, solid, noSlash]

private theorem path_behind {ident : String} {path : List String}
    (valid : ∀ other ∈ ident :: path, isIdentifier other = true) (opens : OpensApart rest)
    (later : LexedBehind rest none tokens) :
    LexedBehind (("::".intercalate (ident :: path)).toList ++ rest) none
        (Token.ofPath (ident :: path) ++ tokens) ∧
      Token.isJoint (("::".intercalate (ident :: path)).toList ++ rest) = true := by
  induction path generalizing ident with
  | nil =>
    have isIdent := valid ident (List.mem_cons_self ..)
    have name := later.spelled (TokenKind.readsBefore_identifier isIdent opens.nameEnds)
    rw [opens.separate] at name
    rw [String.intercalate_singleton]
    exact ⟨name, Token.isJoint_identifier isIdent⟩
  | cons next path ih =>
    have isIdent := valid ident (List.mem_cons_self ..)
    obtain ⟨others, joint⟩ := ih fun other member => valid other (List.mem_cons_of_mem _ member)
    have scope := others.spelled (TokenKind.readsBefore_finished .scope rfl)
    rw [joint] at scope
    have ends : Lexeme.NameEnds (':' :: ':' :: (("::".intercalate (next :: path)).toList ++ rest)) :=
      (Lexeme.numberEnds_of_head (by decide)).1
    have text : ("::".intercalate (ident :: next :: path)).toList ++ rest = ident.toList ++
        ':' :: ':' :: (("::".intercalate (next :: path)).toList ++ rest) := by
      simp [String.intercalate_cons_cons]
    rw [text]
    exact ⟨LexedBehind.spelled (TokenKind.readsBefore_identifier isIdent ends) scope,
      Token.isJoint_identifier isIdent⟩

theorem LexedBehind.path {path : List String} (valid : ∀ ident ∈ path, isIdentifier ident = true)
    (opens : OpensApart rest) (later : LexedBehind rest none tokens) :
    LexedBehind ((if !path.isEmpty then " " ++ "::".intercalate path else "").toList ++ rest) none
      (Token.ofPath path ++ tokens) := by
  cases path with
  | nil => exact later
  | cons ident path => simpa using (path_behind valid opens later).1.space

/-- The text of a row of lines is written as the tokens. Where the row may be the start of a source, so
may what follows it. -/
def HoldsLines (afterToken : Bool) (text : List Char) (tokens : List Token) : Prop :=
  ∀ (rest : List Char) (following : List Token),
    (∀ afterToken, LexedLines afterToken rest following) →
      LexedLines afterToken (text ++ rest) (tokens ++ following)

/-- A brace behind the head of a construct. -/
theorem LexedLines.openBrace (layout : Layout) (later : LexedLines true rest tokens) :
    LexedBehind ((beforeBrace layout).toList ++ '\x7b' :: '\n' :: rest) none
      (Token.plain (.punctuator .leftBrace) false :: tokens) := by
  have opens : OpensApart ('\n' :: rest) := ⟨'\n', rest, rfl, .inr rfl⟩
  unfold beforeBrace
  cases layout.options.braceStyle with
  | sameLine =>
    have brace : LexedBehind ('\x7b' :: '\n' :: rest) none
        (Token.plain (.punctuator .leftBrace) false :: tokens) :=
      later.onNextLine.ending .leftBrace opens
    simpa using brace.space
  | nextLine =>
    have brace : LexedLines true ('\x7b' :: '\n' :: rest)
        (Token.plain (.punctuator .leftBrace) false :: tokens) :=
      .ending true .leftBrace opens later.onNextLine
    simpa using (brace.margin layout).onNextLine

theorem OpensApart.brace (layout : Layout) (rest : List Char) :
    OpensApart ((Doc.beforeBrace layout).toList ++ rest) :=
  (OpensApart.beforeBrace layout).append rest

theorem OpensApart.path (path : List String) (opens : OpensApart rest) :
    OpensApart ((if !path.isEmpty then " " ++ "::".intercalate path else "").toList ++ rest) := by
  cases path with
  | nil => exact opens
  | cons ident path =>
    refine ⟨' ', ("::".intercalate (ident :: path)).toList ++ rest, ?_, .inl rfl⟩
    simp

theorem LexedBehind.finalWord (isFinal : Bool) (opens : OpensApart rest)
    (later : LexedBehind rest none tokens) :
    LexedBehind ((if isFinal then " final" else "").toList ++ rest) none
      ((if isFinal then [Token.plain (.identifier "final") false] else []) ++ tokens) := by
  cases isFinal with
  | false => exact later
  | true =>
    have isIdent : isIdentifier "final" = true := by decide
    simpa using (later.identifierApart isIdent opens).space

theorem OpensApart.finalWord (isFinal : Bool) (opens : OpensApart rest) :
    OpensApart ((if isFinal then " final" else "").toList ++ rest) := by
  cases isFinal with
  | false => exact opens
  | true => exact ⟨' ', "final".toList ++ rest, by simp, .inl rfl⟩

section

variable {content : Doc} {drawn : List (Drawn .declaration)} {members : List Token} {layout : Layout}

/-- The body of a construct, from the brace that opens it to the one that closes it. -/
theorem LexedBehind.body
    (inside : ∀ rest following, (∀ afterToken, LexedLines afterToken rest following) →
      LexedLines true ((content layout).toList ++ rest)
        (members ++ Token.ledBy closing false following))
    (closed : ∀ afterToken, LexedLines afterToken ('\x7d' :: rest) tokens) :
    LexedBehind ((Doc.beforeBrace layout).toList ++ ((braced content layout).toList ++ rest)) none
      (Token.plain (.punctuator .leftBrace) false ::
        (members ++ Token.ledBy closing false tokens)) := by
  have body := inside _ _ fun afterToken => (closed afterToken).margin layout
  simpa [braced] using body.openBrace layout

/-- Members with comments behind the last one. -/
theorem LexedLines.withClosing
    (inside : HoldsLines true (declarationLines drawn layout).toList members)
    (areComments : ∀ comment ∈ closing, IsComment comment) (rest : List Char) (following : List Token)
    (later : ∀ afterToken, LexedLines afterToken rest following) :
    LexedLines true
      (((declarationLines drawn ++ commentLines closing : Doc) layout).toList ++ rest)
      (members ++ Token.ledBy closing false following) := by
  have comments := fun afterToken => (later afterToken).comments areComments layout
  simpa using inside _ _ comments

theorem holdsForm_namespace {path : List String} (isInline : Bool)
    (valid : ∀ ident ∈ path, isIdentifier ident = true)
    (inside : HoldsLines true (declarationLines drawn layout).toList members)
    (areComments : ∀ comment ∈ closing, IsComment comment) :
    HoldsForm (Render.namespaceBlock path isInline drawn closing layout).toList
      (Token.ofNamespace isInline path members closing) := by
  intro afterToken rest comment following opens later
  have body := LexedBehind.body (LexedLines.withClosing inside areComments) fun afterToken =>
    LexedLines.ending afterToken .rightBrace opens later
  have titled := body.path valid (.brace layout _)
  have apart := (OpensApart.brace layout
    ((braced (declarationLines drawn ++ commentLines closing) layout).toList ++ rest)).path path
  have word := TokenKind.readsBefore_keyword .kwNamespace apart.nameEnds
  cases isInline with
  | false =>
    have head := titled.startsLine afterToken word apart
    simpa [Render.namespaceBlock, onlyIf, TokenKind.spelling, Keyword.spelling, Token.ofNamespace,
      Token.ofNamespaceHead, Token.ledBy] using head
  | true =>
    have head := (titled.apart word apart).space.wordStartsLine afterToken .kwInline (.space _)
    simpa [Render.namespaceBlock, onlyIf, TokenKind.spelling, Keyword.spelling, Token.ofNamespace,
      Token.ofNamespaceHead, Token.ledBy] using head

theorem holdsForm_class {ident : String} (key : ClassKey) (isFinal : Bool)
    (valid : isIdentifier ident = true)
    (inside : HoldsLines true
      (declarationLines drawn { layout with depth := layout.depth + 1 }).toList members)
    (areComments : ∀ comment ∈ closing, IsComment comment) :
    HoldsForm
      (Render.classSpecifier key [] [] (some (text ident)) isFinal [] drawn closing layout ++ ";").toList
      (Token.ofClass key ident isFinal members closing) := by
  intro afterToken rest comment following opens later
  have semicolon : LexedBehind (';' :: rest) none _ := later.ending .semicolon opens
  have closed : ∀ afterToken, LexedLines afterToken ('\x7d' :: ';' :: rest)
      (Token.plain (.punctuator .rightBrace) true :: Token.ending .semicolon comment ::
        following) :=
    fun afterToken =>
      LexedLines.spelled afterToken (TokenKind.readsBefore_finished .rightBrace rfl) semicolon
  have body : LexedBehind ((Doc.beforeBrace layout).toList ++
      ((braced (declarationLines drawn ++ commentLines closing).deeper layout).toList ++
        ';' :: rest)) none _ :=
    LexedBehind.body (LexedLines.withClosing inside areComments) closed
  have same : key.keyword.spelling = key.spelling := by cases key <;> rfl
  have apart := (OpensApart.brace layout
    ((braced (declarationLines drawn ++ commentLines closing).deeper layout).toList ++
      ';' :: rest)).finalWord isFinal
  have titled := body.finalWord isFinal (.brace layout _)
  have head :=
    (titled.identifierApart valid apart).space.wordStartsLine afterToken key.keyword (.space _)
  rw [same] at head
  simpa [Render.classSpecifier, Doc.concat, spacedBefore, ifPresent, behindColon, Doc.empty,
    onlyIf, Token.ofClass, Token.ofClassHead, Token.ledBy] using head

end

/-- The comments at a node are comments. -/
structure Placement.HoldsComments (place : Placement) : Prop where
  leading : ∀ comment ∈ place.leadingComments, IsComment comment
  trailing : ∀ comment ∈ place.trailingComment, IsComment comment

/-- Whether an empty line stands before the declaration. -/
def Tree.followsBlank : Declaration → Bool
  | .declaration place _ => place.blankLineBefore

/-- The line of the declaration, with an empty line before it if there is one, is written as the
tokens. No source starts with an empty line. -/
def Tree.WrittenAs (inner : Declaration) (tokens : List Token) : Prop :=
  ∀ (layout : Layout) (afterToken : Bool) (rest : List Char) (following : List Token),
    (inner.followsBlank = true → afterToken = true) → LexedLines true rest following →
      LexedLines afterToken
        ((declarationGap inner ++ declarationLine ⟨inner, inner.drawing⟩ layout).toList ++ rest)
        (tokens ++ following)

section

variable {place : Placement} {form : Tree .declarationForm}

/-- An empty line before a line. -/
theorem Tree.WrittenAs.ofLine (nonempty : tokens ≠ [])
    (line : ∀ (layout : Layout) (afterToken : Bool) (rest : List Char) (following : List Token),
      LexedLines true rest following → LexedLines afterToken
        ((declarationLine ⟨.declaration place form, form.drawing⟩ layout).toList ++ rest)
        (Token.ledBy place.leadingComments false (tokens ++ following))) :
    (Tree.declaration place form).WrittenAs
      (Token.ledBy place.leadingComments place.blankLineBefore tokens) := by
  intro layout afterToken rest following started later
  have drawn : (Tree.declaration place form).drawing = form.drawing := rfl
  have first := line layout afterToken rest following later
  rw [← Token.ledBy_append _ _ nonempty, drawn]
  cases blank : place.blankLineBefore with
  | false => simpa [declarationGap, blank] using first
  | true =>
    obtain rfl := started blank
    have apart := first.blankLine
    rw [Token.ledBy_ledBy] at apart
    simpa [declarationGap, blank] using apart

/-- A form on a line of its own, with its comments. -/
theorem HoldsForm.line {tokens : Option String → List Token}
    (holds : ∀ layout,
      HoldsForm (completed ⟨.declaration place form, form.drawing⟩ layout).toList tokens)
    (comments : place.HoldsComments) (nonempty : tokens place.trailingComment ≠ [])
    (same : ∀ layout, ∃ inner, declarationLine ⟨.declaration place form, form.drawing⟩ layout =
      (commentLines place.leadingComments layout ++ (margin inner ++
        completed ⟨.declaration place form, form.drawing⟩ layout ++
        Doc.trailing place.trailingComment layout ++ "\n"))) :
    (Tree.declaration place form).WrittenAs (Token.ledBy place.leadingComments place.blankLineBefore
      (tokens place.trailingComment)) := by
  refine .ofLine nonempty fun layout afterToken rest following later => ?_
  obtain ⟨inner, text⟩ := same layout
  have behind := later.behindTrailing comments.trailing layout
  have opens := OpensApart.trailing place.trailingComment layout rest
  have line := holds layout afterToken _ _ _ opens behind
  rw [text]
  simpa using (line.margin inner).comments comments.leading layout

theorem writtenAs_directive {text : String} (isDirective : IsDirective text)
    (comments : place.HoldsComments) :
    (Tree.declaration place (.directive text)).WrittenAs
      (Token.ledBy place.leadingComments place.blankLineBefore [.plain (.directive text) false]) := by
  refine .ofLine (List.cons_ne_nil _ _) fun layout afterToken rest following later => ?_
  have drawn : declarationLine
      ⟨.declaration place (.directive text), (Tree.directive text).drawing⟩ layout =
      commentLines place.leadingComments layout ++ (text ++ "\n") := rfl
  rw [drawn]
  simpa using (later.directive isDirective).comments comments.leading layout

/-- A name behind a type stands apart from it. -/
theorem afterType_named {ident : String} (valid : isIdentifier ident = true) (layout : Layout) :
    (Tree.namedDeclarator ident).drawing.afterType layout = " " ++ ident := by
  simp only [isIdentifier, Bool.and_eq_true] at valid
  have nonempty : ident ≠ "" := by
    rintro rfl
    exact absurd valid.1 (by decide)
  have noDot : startsWith (· == '.') ident = false := by
    cases spelled : ident.toList with
    | nil => simp [startsWith, spelled]
    | cons first more =>
      simp only [spelled, Lexeme.isName, Bool.and_eq_true] at valid
      have other : first ≠ '.' := by
        rintro rfl
        exact absurd valid.1.1 (by decide)
      simp [startsWith, spelled, other]
  have core : ((Tree.namedDeclarator ident).drawing.core) layout = ident := by
    show "" ++ (Tree.simpleName ident).drawing layout ++ "" = ident
    rw [Tree.drawing_simpleName]
    simp
  have pointers : (Tree.namedDeclarator ident).drawing.pointers layout = "" := rfl
  have named : (Tree.namedDeclarator ident).drawing.nameless = false := rfl
  have plain : DeclaratorDoc.attached "" = "" := rfl
  simp [DeclaratorDoc.afterType, core, pointers, named, noDot, nonempty, plain]

private theorem integerVariable_text {ident : String} (valid : isIdentifier ident = true)
    (layout : Layout) :
    completed ⟨.declaration place (.integerVariable ident), (Tree.integerVariable ident).drawing⟩
      layout = "int " ++ ident ++ ";" := by
  have drawn : completed
      ⟨.declaration place (.integerVariable ident), (Tree.integerVariable ident).drawing⟩ layout =
      "int" ++ (Tree.namedDeclarator ident).drawing.afterType layout ++ "" ++ "" ++ "" ++ ";" := rfl
  rw [drawn, afterType_named valid, ← String.toList_inj]
  simp

theorem writtenAs_variable {ident : String} (valid : isIdentifier ident = true)
    (comments : place.HoldsComments) :
    (Tree.declaration place (.integerVariable ident)).WrittenAs
      (Token.ledBy place.leadingComments place.blankLineBefore
        (Token.ofVariable ident place.trailingComment)) := by
  refine HoldsForm.line (fun layout => ?_) comments (by simp [Token.ofVariable])
    fun layout => ⟨layout, rfl⟩
  rw [integerVariable_text valid]
  exact holdsForm_variable valid

theorem writtenAs_label (access : Access) (comments : place.HoldsComments) :
    (Tree.declaration place (.accessLabel access)).WrittenAs
      (Token.ledBy place.leadingComments place.blankLineBefore
        (Token.ofLabel access place.trailingComment)) := by
  refine HoldsForm.line (fun layout => ?_) comments (by simp [Token.ofLabel])
    fun layout => ⟨{ layout with depth := layout.depth - 1 }, ?_⟩
  · have drawn : completed ⟨.declaration place (.accessLabel access),
        (Tree.accessLabel access).drawing⟩ layout = access.spelling ++ ":" ++ "" := rfl
    rw [drawn, String.append_empty]
    exact holdsForm_label access
  · have drawn : declarationLine ⟨.declaration place (.accessLabel access),
        (Tree.accessLabel access).drawing⟩ layout = commentLines place.leadingComments layout ++
          (margin { layout with depth := layout.depth - 1 } ++ (access.spelling ++ ":") ++
            Doc.trailing place.trailingComment layout ++ "\n") := rfl
    rw [drawn, ← String.append_empty (s := access.spelling ++ ":")]
    rfl

theorem writtenAs_namespace {members : Trees .declaration} {tokens : List Token}
    {path : List String} (isInline : Bool) (valid : ∀ ident ∈ path, isIdentifier ident = true)
    (inside : ∀ layout, HoldsLines true (declarationLines members.drawn layout).toList tokens)
    (areComments : ∀ comment ∈ closing, IsComment comment) (comments : place.HoldsComments) :
    (Tree.declaration place (.namespaceBlock path isInline members closing)).WrittenAs
      (Token.ledBy place.leadingComments place.blankLineBefore
        (Token.ofNamespace isInline path tokens closing place.trailingComment)) := by
  refine HoldsForm.line (fun layout => ?_) comments
    (by simp [Token.ofNamespace, Token.ofNamespaceHead]) fun layout => ⟨layout, rfl⟩
  have drawn : completed ⟨.declaration place (.namespaceBlock path isInline members closing),
      (Tree.namespaceBlock path isInline members closing).drawing⟩ layout =
        Render.namespaceBlock path isInline members.drawn closing layout ++ "" := rfl
  rw [drawn, String.append_empty]
  exact holdsForm_namespace isInline valid (inside layout) areComments

theorem writtenAs_class {members : Trees .declaration} {tokens : List Token} {ident : String}
    (key : ClassKey) (isFinal : Bool) (valid : isIdentifier ident = true)
    (inside : ∀ layout, HoldsLines true (declarationLines members.drawn layout).toList tokens)
    (areComments : ∀ comment ∈ closing, IsComment comment) (comments : place.HoldsComments) :
    (Tree.declaration place (.plainClass key ident isFinal members closing)).WrittenAs
      (Token.ledBy place.leadingComments place.blankLineBefore
        (Token.ofClass key ident isFinal tokens closing place.trailingComment)) := by
  refine HoldsForm.line (fun layout => ?_) comments
    (by simp [Token.ofClass, Token.ofClassHead]) fun layout => ⟨layout, rfl⟩
  have drawn : completed ⟨.declaration place (.plainClass key ident isFinal members closing),
      (Tree.plainClass key ident isFinal members closing).drawing⟩ layout =
        Render.classSpecifier key [] [] (some (Tree.simpleName ident).drawing) isFinal []
          members.drawn closing layout ++ ";" ++ "" := rfl
  rw [drawn, String.append_empty, Tree.drawing_simpleName]
  exact holdsForm_class key isFinal valid (inside _) areComments

end

/-- No empty line stands before the first of the declarations. -/
def Trees.StartsClose (members : Trees .declaration) : Prop :=
  ∀ first ∈ members.toList.head?, first.followsBlank = false

private theorem declarationLines_eq {members : Trees .declaration} (close : members.StartsClose)
    (layout : Layout) : declarationLines members.drawn layout =
      Doc.concat (members.drawn.map fun inner =>
        (declarationGap inner.tree : Doc) ++ declarationLine inner) layout := by
  cases members with
  | nil => rfl
  | cons first rest =>
    have together : declarationGap first = "" := by
      cases first with
      | declaration place form => exact congrArg (if · then "\n" else "") (close _ rfl)
    simp [Trees.drawn, declarationLines, Doc.concat, together]

private theorem row_written {afterToken : Bool} {members : Trees .declaration}
    {rows : List (List Token)} (written : List.Forall₂ Tree.WrittenAs members.toList rows)
    (started : ∀ first ∈ members.toList.head?, first.followsBlank = true → afterToken = true)
    (layout : Layout) :
    HoldsLines afterToken (Doc.concat (members.drawn.map fun inner =>
      (declarationGap inner.tree : Doc) ++ declarationLine inner) layout).toList rows.flatten := by
  intro rest following later
  match members, rows, written with
  | .nil, _, .nil => exact later afterToken
  | .cons first members, _, .cons row written =>
    rename_i tokens rows
    have others := row_written written (fun _ _ _ => rfl) layout rest following later
    have line := row layout afterToken _ _ (started first rfl) others
    simpa [Trees.drawn, Doc.concat] using line

/-- The lines of a row of declarations are written as the tokens of all of them. -/
theorem Tree.WrittenAs.row {members : Trees .declaration} {rows : List (List Token)}
    (written : List.Forall₂ Tree.WrittenAs members.toList rows) (close : members.StartsClose)
    (afterToken : Bool) (layout : Layout) :
    HoldsLines afterToken (declarationLines members.drawn layout).toList rows.flatten := by
  rw [declarationLines_eq close]
  refine row_written written (fun first member blank => ?_) layout
  rw [close first member] at blank
  cases blank

end

end CppSyntax
