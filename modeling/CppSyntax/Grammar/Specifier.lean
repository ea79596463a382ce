import CppSyntax.Grammar.Name

/-!
Declaration specifiers: attributes, modifiers and the type, with the classes and enumerations that
may be defined in its place. Reading them also tells whether they can be nothing but specifiers, on
which the choice between declarations and expressions rests.
-/

namespace CppSyntax

def Keyword.modifier? : Keyword → Option Modifier
  | .kwStatic => some .static
  | .kwExtern => some .external
  | .kwInline => some .inline
  | .kwVirtual => some .virtual
  | .kwExplicit => some .explicit
  | .kwConstexpr => some .constexpr
  | .kwConsteval => some .consteval
  | .kwConstinit => some .constinit
  | .kwFriend => some .friend
  | .kwMutable => some .mutable
  | .kwThreadLocal => some .threadLocal
  | .kwRegister => some .register
  | _ => none

/-- The words that make a statement a declaration outright. -/
def Keyword.startsDeclaration (word : Keyword) : Bool :=
  word.modifier?.isSome ||
    [.kwTypedef, .kwUsing, .kwNamespace, .kwTemplate, .kwStaticAssert, .kwClass, .kwStruct, .kwUnion,
      .kwEnum, .kwTypename, .kwConst, .kwVolatile, .kwAuto, .kwAlignas].contains word

def Keyword.classKey? : Keyword → Option ClassKey
  | .kwClass => some .classKey
  | .kwStruct => some .structKey
  | .kwUnion => some .unionKey
  | _ => none

def Keyword.access? : Keyword → Option Access
  | .kwPublic => some .isPublic
  | .kwProtected => some .isProtected
  | .kwPrivate => some .isPrivate
  | _ => none

namespace TokenKind

def isString : TokenKind → Bool
  | .string _ => true
  | _ => false

def opensBracket : TokenKind → Bool
  | .punctuator mark => [.leftParen, .leftBracket, .leftBrace].contains mark
  | _ => false

def closesBracket : TokenKind → Bool
  | .punctuator mark => [.rightParen, .rightBracket, .rightBrace].contains mark
  | _ => false

def isPunctuator : TokenKind → Bool
  | .punctuator _ => true
  | _ => false

/-- The spellings of tokens in a row, with a space only between two that are words. -/
def joinSpellings (afterWord : Bool) : List TokenKind → String
  | [] => ""
  | kind :: rest =>
    let isWord := !kind.isPunctuator
    (if isWord && afterWord then " " else "") ++ kind.spelling ++ joinSpellings isWord rest

end TokenKind

/-- The type with other qualifiers. -/
def Tree.qualify (cv : Qualifiers) : TypeSpecifier → TypeSpecifier
  | .builtinType _ words => .builtinType cv words
  | .namedType _ target => .namedType cv target
  | .elaboratedType _ key target => .elaboratedType cv key target
  | .decltypeType _ value => .decltypeType cv value
  | .decltypeAuto _ => .decltypeAuto cv
  | .autoType _ => .autoType cv
  | .classType _ definition => .classType cv definition
  | .enumType _ definition => .enumType cv definition

/-- Whether a segment has template arguments. -/
def Tree.isTemplateId : Tree .segment → Bool
  | .templateSegment .. => true
  | _ => false

/-- The identifier of a segment that is nothing more than an identifier with arguments. -/
def Tree.plainIdent? : Tree .segment → Option String
  | .plainSegment ident _ | .templateSegment ident _ _ => some ident
  | _ => none

/-- Whether a name is that of a special member function or an operator. A constructor has the name of
its class, and a parenthesis follows it. -/
def Tree.namesFunction (title : Name) (scope : Scope) (enclosing : Option String)
    (parenthesis : Bool) : Bool :=
  match title.segments.reverse with
  | [] => false
  | last :: before =>
    match last.plainIdent? with
    | none => true
    | some ident =>
      let inClass := scope == .inClass && before.isEmpty && enclosing == some ident
      let outOfClass := (before.head?.bind (·.plainIdent?)) == some ident
      parenthesis && (inClass || outOfClass)

namespace State

def atAttribute (state : State) : Bool :=
  state.isAt .leftBracket && state.isAhead 1 .leftBracket

/-- Whether `final` here belongs to the head of a class. -/
def atClassFinal (state : State) : Bool :=
  state.isAtIdent "final" && (state.isAhead 1 .leftBrace || state.isAhead 1 .colon)

end State

namespace Grammar

open CppSyntax.Parser

variable {m : Type → Type} [Monad m] [Reading m]

/-- A placement at the current token, with the comments before it. -/
def startPlacement : m Placement := do
  let token := (← here).current
  return ⟨token.location, token.leadingComments, none, token.blankLineBefore⟩

/-- The tokens up to a closing mark that stands outside all brackets opened on the way. -/
def balancedTokens (g : Grammar m) (close : Punctuator) (expected : Expectation) :
    m (List TokenKind) :=
  g.loop (fun (kinds, depth) => do
    let kind := (← here).kind
    if kind == .endOfFile then fail expected
    if depth == 0 && kind == .punctuator close then return .inr kinds
    advance
    let depth :=
      if kind.opensBracket then depth + 1 else if kind.closesBracket then depth - 1 else depth
    return .inl (kinds ++ [kind], depth)) (([], 0) : List TokenKind × Nat)

def attributeText (g : Grammar m) : m String := do
  expect .leftBracket "to open attribute"
  expect .leftBracket "to open attribute"
  let kinds ← g.balancedTokens .rightBracket (.phrase "']]' to close attribute")
  expect .rightBracket "to close attribute"
  expect .rightBracket "to close attribute"
  return TokenKind.joinSpellings false kinds

def alignmentText (g : Grammar m) : m String := do
  expectWord .kwAlignas "before its operand"
  expect .leftParen "after 'alignas'"
  let kinds ← g.balancedTokens .rightParen (.phrase "')' to close 'alignas'")
  if kinds.isEmpty then fail (.phrase "operand of 'alignas'")
  expect .rightParen "to close 'alignas'"
  return TokenKind.joinSpellings false kinds

/-- Attributes and alignments in any order. -/
def attributesAndAlignment (g : Grammar m) : m (List String × List String) :=
  g.loop (fun (attributes, alignments) => do
    let state ← here
    if state.atAttribute then return .inl (attributes ++ [← g.attributeText], alignments)
    if state.isAtWord .kwAlignas then return .inl (attributes, alignments ++ [← g.alignmentText])
    return .inr (attributes, alignments)) (([], []) : List String × List String)

def decltype (g : Grammar m) : m TypeSpecifier := do
  expectWord .kwDecltype "before its operand"
  expect .leftParen "after 'decltype'"
  let state ← here
  if state.isAtWord .kwAuto && state.isAhead 1 .rightParen then
    advanceBy 2
    return .decltypeAuto .none
  let value ← g.bracketed
  expect .rightParen "to close 'decltype'"
  return .decltypeType .none value

/-- The name of a class or enumeration, if it has one. The name counts as a type from here on. -/
def declaredTitle (g : Grammar m) : m (Option Name) := do
  let state ← here
  if state.isAtIdentifier || state.isAt .scope then
    let title ← g.name
    declareTypes title.lastIdent?.toList
    return some title
  return none

def access? : m (Option Access) := do
  match (← here).kind with
  | .keyword word =>
    match word.access? with
    | some access => advance; return some access
    | none => return none
  | _ => return none

def baseSpecifier (g : Grammar m) : m (Tree .base) := do
  let isVirtual ← acceptWord .kwVirtual
  let access ← access?
  let isVirtual := (← acceptWord .kwVirtual) || isVirtual
  let target ← g.name
  return .base access isVirtual target (← accept .ellipsis)

/-- Hands a comment that follows an opening brace to the first node inside, or to the comments before
the closing brace if there is none. -/
def leadWith (comment : Option String) (items : List (Tree c)) (closing : List String) :
    List (Tree c) × List String :=
  match comment, items with
  | none, _ => (items, closing)
  | some comment, first :: rest => (first.mapPlace (·.precede comment) :: rest, closing)
  | some comment, [] => ([], comment :: closing)

/-- Declarations or statements between braces, with the comments before the closing brace. -/
def braced (construct : String) (items : m (List (Tree c))) :
    m (List (Tree c) × List String) := do
  expect .leftBrace ("to open " ++ construct)
  let comment ← trailingComment
  let items ← items
  let closing := (← here).current.leadingComments
  expect .rightBrace ("to close " ++ construct)
  return leadWith comment items closing

def classMembers (g : Grammar m) (title : Option Name) (key : ClassKey) :
    m (List Declaration × List String) :=
  braced (key.spelling ++ " body") <|
    insideClass ((title.bind (·.lastIdent?)).getD "") <| angleCloses false <|
      g.itemsUntil .rightBrace (g.declaration .inClass)

/-- A class definition, or the use of a class by its key and name. -/
def classSpecifier (g : Grammar m) (key : ClassKey) : m TypeSpecifier := do
  advance
  let (attributes, alignments) ← g.attributesAndAlignment
  let title ← g.declaredTitle
  let isFinal ← acceptIf (·.atClassFinal)
  let state ← here
  if !state.isAt .leftBrace && !state.isAt .colon then
    match title with
    | some title => return .elaboratedType .none (.ofClass key) title
    | none => fail (.spelling Punctuator.leftBrace.spelling ("to open " ++ key.spelling ++ " body"))
  let bases ← if ← accept .colon then g.separated g.baseSpecifier else pure []
  let (members, closing) ← g.classMembers title key
  return .classType .none (.classSpecifier key attributes alignments (.ofOption title) isFinal
    (.ofList bases) (.ofList members) closing)

/-- An enumerator, and whether a comma follows it. Its comment may stand behind the comma. -/
def enumerator (g : Grammar m) : m (Tree .enumerator × Bool) := do
  let place ← startPlacement
  let ident ← expectIdentifier "in enumerator list"
  let value ← if ← accept .assign then some <$> g.conditional else pure none
  let more ← accept .comma
  let place := { place with trailingComment := ← trailingComment }
  return (.enumerator ident (.ofOption value) place, more)

def enumerators (g : Grammar m) : m (List (Tree .enumerator)) := do
  expect .leftBrace "to open enum body"
  let items ← angleCloses false <| g.loop (fun items => do
    if (← here).isAt .rightBrace then return .inr items
    let (item, more) ← g.enumerator
    let items := items ++ [item]
    if more then return .inl items else return .inr items) []
  expect .rightBrace "to close enum body"
  return items

def enumKey : m (Option ClassKey) := do
  if ← acceptWord .kwClass then return some .classKey
  if ← acceptWord .kwStruct then return some .structKey
  return none

/-- An enumeration with or without its enumerators, or the use of one by its name. -/
def enumSpecifier (g : Grammar m) : m TypeSpecifier := do
  expectWord .kwEnum "before its name"
  let key ← enumKey
  let title ← g.declaredTitle
  let state ← here
  let underlying ←
    if state.isAt .colon && (title.isSome || !state.isAhead 1 .leftBrace) then do
      advance
      some <$> g.typeSpecifier
    else pure none
  if (← here).isAt .leftBrace then
    let items ← g.enumerators
    return .enumType .none (.enumSpecifier key (.ofOption title) (.ofOption underlying)
      (.ofList items))
  match title with
  | some title =>
    if key.isNone && underlying.isNone then return .elaboratedType .none .ofEnum title
    else return .enumType .none (.bodilessEnum key title (.ofOption underlying))
  | none => fail (.phrase "'\x7b' to open enum body")

/-- Whether the name here is the declarator of a constructor, destructor, operator or conversion
function and not a type. -/
def declaratorName (g : Grammar m) (scope : Scope) (enclosing : Option String) : m Bool := do
  let title ← g.name
  return title.namesFunction scope enclosing ((← here).isAt .leftParen)

def declaratorNameAhead (g : Grammar m) (scope : Scope) : m Bool := do
  let enclosing := (← context).classes.head?
  return (← lookahead (g.declaratorName scope enclosing)).getD false

/-- Specifiers while they are being read. The words of a builtin type may stand apart. -/
structure SpecifierDraft where
  specs : ParsedSpecifiers
  cv : Qualifiers
  words : List String

namespace SpecifierDraft

def empty : SpecifierDraft := ⟨⟨[], [], [], none, false, false⟩, .none, []⟩

def hasType (draft : SpecifierDraft) : Bool :=
  draft.specs.type.isSome || !draft.words.isEmpty

/-- Only specifiers can go on like this. -/
def sure (draft : SpecifierDraft) : SpecifierDraft :=
  { draft with specs := { draft.specs with certain := true } }

def withType (draft : SpecifierDraft) (type : TypeSpecifier) : SpecifierDraft :=
  { draft with specs := { draft.specs with type := some type } }

def withAttribute (draft : SpecifierDraft) (text : String) : SpecifierDraft :=
  { draft with specs := { draft.specs with attributes := draft.specs.attributes ++ [text] } }

def withAlignment (draft : SpecifierDraft) (text : String) : SpecifierDraft :=
  { draft with specs := { draft.specs with alignment := draft.specs.alignment ++ [text] } }

def withModifier (draft : SpecifierDraft) (modifier : Modifier) : SpecifierDraft :=
  { draft with specs := { draft.specs with modifiers := draft.specs.modifiers ++ [modifier] } }

/-- The type of finished specifiers. -/
def type? (draft : SpecifierDraft) : Option TypeSpecifier :=
  if draft.words.isEmpty then draft.specs.type.map (·.qualify draft.cv)
  else some (.builtinType draft.cv draft.words)

end SpecifierDraft

/-- The type that a keyword introduces in a place where no type has been read. -/
def keywordType (g : Grammar m) (word : Keyword) : Option (m TypeSpecifier) :=
  match word with
  | .kwAuto => some do
    advance
    return .autoType .none
  | .kwDecltype => some g.decltype
  | .kwEnum => some g.enumSpecifier
  | .kwTypename => some do
    advance
    return .elaboratedType .none .ofTypename (← g.name)
  | _ => word.classKey?.map g.classSpecifier

/-- The next specifier that starts with a keyword, or the end of the specifiers. -/
def keywordSpecifier (g : Grammar m) (draft : SpecifierDraft) (word : Keyword) :
    m (SpecifierDraft ⊕ SpecifierDraft) := do
  if word == .kwExtern && ((← here).ahead 1).isString then return .inr draft
  if word == .kwAlignas then return .inl (draft.withAlignment (← g.alignmentText)).sure
  if let some modifier := word.modifier? then
    advance
    return .inl (draft.withModifier modifier).sure
  if word == .kwTypedef then
    advance
    return .inl { draft with specs := { draft.specs with isTypedef := true } }.sure
  if word == .kwConst then
    advance
    return .inl { draft with cv := { draft.cv with isConst := true } }.sure
  if word == .kwVolatile then
    advance
    return .inl { draft with cv := { draft.cv with isVolatile := true } }.sure
  if word.isBuiltinType && draft.specs.type.isNone then
    advance
    return .inl { draft with words := draft.words ++ [word.spelling] }.sure
  if !draft.hasType then
    if let some type := g.keywordType word then
      return .inl (draft.withType (← type)).sure
  return .inr draft

/-- The name of a type, unless a type has been read or the name is that of a declarator. -/
def namedSpecifier (g : Grammar m) (scope : Scope) (draft : SpecifierDraft) :
    m (SpecifierDraft ⊕ SpecifierDraft) := do
  if draft.hasType then return .inr draft
  if ← g.declaratorNameAhead scope then return .inr draft
  let target ← g.name
  let known := (← here).typeNames
  let draft := draft.withType (.namedType .none target)
  let isTemplateId := target.segments.any (·.isTemplateId)
  if isTemplateId || target.lastIdent?.any (known.contains ·) then return .inl draft.sure
  else return .inl draft

/-- One more specifier, or the end of the specifiers. -/
def specifierStep (g : Grammar m) (scope : Scope) (draft : SpecifierDraft) :
    m (SpecifierDraft ⊕ SpecifierDraft) := do
  let state ← here
  match state.kind with
  | .keyword word => g.keywordSpecifier draft word
  | .identifier _ | .punctuator .scope => g.namedSpecifier scope draft
  | _ =>
    if state.atAttribute then return .inl (draft.withAttribute (← g.attributeText)).sure
    else return .inr draft

/-- All specifiers up to the first declarator. They may hold no type, but then no qualifier. -/
def specifiersRule (g : Grammar m) (scope : Scope) : m ParsedSpecifiers := do
  let draft ← g.loop (g.specifierStep scope) .empty
  match draft.type? with
  | some type => return { draft.specs with type := some type }
  | none =>
    if draft.cv != .none then fail (.phrase "type name after cv-qualifier")
    return draft.specs

end Grammar

end CppSyntax
