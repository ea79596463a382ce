import CppSyntax.Proofs.Declarator.Suffixes
import CppSyntax.Proofs.Expression.LaidOut

/-!
Declarators that nest both ways, around a name or around nothing: pointers in front, arrays and
functions behind, and declarators inside parentheses or as parameters. Each is read back from its
tokens in every mode that suits it.
-/

namespace CppSyntax

open CppSyntax.Parser Grammar

/-- Declarators, suffixes and parameters that nest at most so deep. Parameters are of builtin types,
bounds of arrays are integers. -/
inductive Tree.InsideOut : Nat → {c : Category} → Tree c → Prop where
  | named {nest : Nat} {pointers : Trees .pointerOperator} {ident : String}
      {suffixes : Trees .declaratorSuffix} (row : pointers.PointerRow)
      (plain : isPlainIdentifier ident = true) (each : ∀ suffix ∈ suffixes.toList, InsideOut nest suffix) :
      InsideOut nest (.declarator pointers false (.declaredName (.simpleName ident)) suffixes)
  | abstract {nest : Nat} {pointers : Trees .pointerOperator} {suffixes : Trees .declaratorSuffix}
      (row : pointers.PointerRow) (each : ∀ suffix ∈ suffixes.toList, InsideOut nest suffix) :
      InsideOut nest (.declarator pointers false .unnamed suffixes)
  | nested {nest : Nat} {pointers inside : Trees .pointerOperator} {core : Tree .declaratorCore}
      {suffixes within : Trees .declaratorSuffix} (row : pointers.PointerRow) (some : inside ≠ .nil)
      (inner : InsideOut nest (.declarator inside false core within))
      (each : ∀ suffix ∈ suffixes.toList, InsideOut (nest + 1) suffix) :
      InsideOut (nest + 1)
        (.declarator pointers false (.nestedDeclarator (.declarator inside false core within)) suffixes)
  | array {nest : Nat} {size : Part .expression} (bound : size.IsBound) :
      InsideOut nest (.arraySuffix size)
  | function {nest : Nat} {items : Trees .parameter} (variadic : Bool)
      (each : ∀ item ∈ items.toList, InsideOut nest item) :
      InsideOut (nest + 1) (.functionSuffix (.bareSignature items variadic))
  | parameter {nest : Nat} {words : List Keyword} {shape : Declarator} (cv : Qualifiers)
      (builtin : ∀ word ∈ words, word.isBuiltinType = true) (nonempty : words ≠ [])
      (shaped : InsideOut nest shape) :
      InsideOut nest (.parameter (.builtinSpecifiers cv words) shape .absent)

/-- The declarator declares a name where one is needed, and none where none may stand. -/
def DeclaratorMode.Suits (mode : DeclaratorMode) (shape : Declarator) : Prop :=
  match mode with
  | .named => shape.declaredName?.isSome = true
  | .maybeNamed => True
  | .unnamed => shape.declaredName? = none
  | .pointersOnly => False

/-- Pointer operators end before these tokens, and so do specifiers with a type. -/
structure FollowsPointers (rest : List Glyph) : Prop where
  endsPointers : EndsPointers rest
  stopsSpecifiers : StopsSpecifiers rest
  noEllipsis : ∃ next tail, rest = next :: tail ∧ next.kind ≠ .punctuator .ellipsis

theorem FollowsCore.followsPointers {rest : List Glyph} (follows : FollowsCore rest) :
    FollowsPointers rest :=
  ⟨follows.endsPointers, follows.stopsSpecifiers, follows.noMark .ellipsis (by decide)⟩

/-- The core of a declarator is read from its tokens, wherever it may end. -/
structure Tree.IsReadCore (mode : DeclaratorMode) (nest : Nat) (core : Tree .declaratorCore) :
    Prop where
  reads : core.IsRead (fun g => g.declaratorCore mode) nest FollowsCore
  follows : ∀ glyphs rest, OfKinds core.kinds glyphs → FollowsCore rest →
    FollowsPointers (glyphs ++ rest)

/-- A declarator is read from its tokens in each mode that suits it, and specifiers end before it. -/
structure Tree.IsReadDeclarator (nest : Nat) (shape : Declarator) : Prop where
  reads : ∀ mode : DeclaratorMode, mode.Suits shape →
    shape.IsRead (fun g => g.declarator mode) nest EndsDeclarator
  stops : ∀ glyphs rest, OfKinds shape.kinds glyphs → EndsDeclarator rest →
    StopsSpecifiers (glyphs ++ rest)

namespace Tree

variable {mode : DeclaratorMode} {nest : Nat} {pointers inside : Trees .pointerOperator}
  {core : Tree .declaratorCore} {suffixes within : Trees .declaratorSuffix} {ident : String}
  {shape : Declarator}

theorem declaredName_isReadCore (ident : String) (named : mode ≠ .unnamed) :
    (Tree.declaredName (.simpleName ident)).IsReadCore mode nest := by
  have front {glyphs : List Glyph} (spelled : OfKinds (Tree.declaredName (.simpleName ident)).kinds
      glyphs) : ∃ joint, glyphs = [⟨.identifier ident, joint⟩] := by
    have kinds : (Tree.declaredName (.simpleName ident)).kinds = [.identifier ident] :=
      Punctuator.between_single .scope _
    obtain ⟨joint, _, rfl, none⟩ := OfKinds.of_cons (kinds ▸ spelled)
    obtain rfl := OfKinds.of_nil none
    exact ⟨joint, rfl⟩
  have next {rest : List Glyph} (follows : FollowsCore rest) : ∃ next tail, rest = next :: tail ∧
      next.kind ≠ .punctuator .scope ∧ next.kind ≠ .punctuator .less := by
    have starts := follows.starts
    obtain ⟨mark, joint, tail, rfl, _⟩ := follows.starts
    exact ⟨_, tail, rfl, starts.ne (by decide), starts.ne (by decide)⟩
  refine ⟨fun glyphs rest spelled follows g derived sure context _ => ?_,
    fun glyphs rest spelled follows => ?_⟩
  · obtain ⟨joint, rfl⟩ := front spelled
    obtain ⟨next, tail, rfl, noScope, noLess⟩ := next follows
    refine .byPlace fun state known => ?_
    have noNesting : state.atNestedDeclarator = false := by
      rw [State.atNestedDeclarator, State.isAt_of_glyphs known]
      rfl
    have isName : (mode != .unnamed && state.atDeclaredName) = true := by
      rw [State.atDeclaredName, State.isAtIdentifier, State.kind_of_glyphs known]
      simpa using named
    rw [noNesting, isName]
    exact (name_reads noScope noLess derived).andThen (.pure rfl)
  · obtain ⟨joint, rfl⟩ := front spelled
    obtain ⟨next, tail, rfl, noScope, noLess⟩ := next follows
    exact ⟨.name noScope noLess, .name rfl, _, _, rfl, by simp⟩

theorem unnamed_isReadCore (unnamed : mode ≠ .named) : Tree.unnamed.IsReadCore mode nest := by
  refine ⟨fun glyphs rest spelled follows g derived sure context _ => ?_,
    fun glyphs rest spelled follows => ?_⟩
  · obtain rfl := OfKinds.of_nil spelled
    refine .byPlace fun state known => ?_
    have none := follows.noCore known
    have noName : (mode == .named) = false := by simpa using unnamed
    rw [none.1, none.2, Bool.and_false, noName]
    exact .pure rfl
  · obtain rfl := OfKinds.of_nil spelled
    exact follows.followsPointers

theorem nestedDeclarator_isReadCore (row : inside.PointerRow) (some : inside ≠ .nil)
    (inner : (Tree.declarator inside false core within).IsRead (fun g => g.declarator mode) nest
      EndsDeclarator) :
    (Tree.nestedDeclarator (.declarator inside false core within)).IsReadCore mode nest := by
  refine ⟨fun glyphs rest spelled follows g derived sure context room => ?_,
    fun glyphs rest spelled follows => ?_⟩
  · obtain ⟨opened, _, rfl, later⟩ := OfKinds.of_cons spelled
    obtain ⟨tokens, _, rfl, within, close⟩ := OfKinds.of_append later
    obtain ⟨closed, _, rfl, none⟩ := OfKinds.of_cons close
    obtain rfl := OfKinds.of_nil none
    rw [List.cons_append, List.append_assoc]
    have reads := inner tokens (⟨.punctuator .rightParen, closed⟩ :: rest) within
      ⟨_, _, _, rfl, by decide⟩ g derived sure context room
    obtain ⟨before, _, rfl, operators, _⟩ := OfKinds.of_append within
    obtain ⟨front, back, rfl, operators, _⟩ := OfKinds.of_append operators
    rcases row.front operators with ⟨none, _⟩ | ⟨first, tail, rfl, mark, kind, isPointer⟩
    · exact absurd none some
    · refine .byPlace fun state known => ?_
      have nesting : state.atNestedDeclarator = true := by
        rw [State.atNestedDeclarator, State.isAt_of_glyphs known, State.ahead_one_of_glyphs known, kind]
        exact isPointer
      rw [nesting]
      refine (Reads.advance (by simp) (by simp)).bind fun _ _ => ?_
      refine reads.andThen ?_
      exact (Reads.expect follows.ne_nil rfl).bind fun _ _ => .pure rfl
  · obtain ⟨opened, later, rfl, _⟩ := OfKinds.of_cons spelled
    exact ⟨.mark rfl (by decide), .mark rfl (by decide), _, _, rfl, by simp⟩

theorem declarator_isRead (row : pointers.PointerRow) (shaped : mode ≠ .pointersOnly)
    (isRead : core.IsReadCore mode (nest + 1))
    (each : ∀ suffix ∈ suffixes.toList, suffix.IsReadSuffix (nest + 1)) :
    (Tree.declarator pointers false core suffixes).IsRead (fun g => g.declarator mode) (nest + 2)
      EndsDeclarator := by
  intro glyphs rest spelled ends g derived sure context room
  obtain ⟨front, back, rfl, before, behind⟩ := OfKinds.of_append spelled
  obtain ⟨operators, tokens, rfl, own, middle⟩ := OfKinds.of_append before
  have follows := suffixes_follow each behind ends
  obtain ⟨endsPointers, _, next, tail, first, noEllipsis⟩ :=
    isRead.follows tokens (back ++ rest) middle follows
  have noPointers : (mode == .pointersOnly) = false := by simpa using shaped
  rw [List.append_assoc, List.append_assoc]
  refine derived.symbol (.declarator mode) fun inner innerDerived => .nested room.fits ?_
  refine (row.reads own endsPointers innerDerived).andThen ?_
  rw [noPointers]
  refine (first ▸ Reads.missing noEllipsis).andThen ?_
  refine (isRead.reads tokens _ middle follows inner innerDerived sure _ room.deeper).andThen ?_
  refine (declaratorSuffixes_reads each behind ends mode inner innerDerived sure _ room.deeper).andThen ?_
  refine .pure ?_
  rw [Trees.ofList_toList, Trees.ofList_toList]

theorem declarator_stops (row : pointers.PointerRow) (isRead : core.IsReadCore mode nest)
    (each : ∀ suffix ∈ suffixes.toList, suffix.IsReadSuffix nest) (glyphs rest : List Glyph)
    (spelled : OfKinds (Tree.declarator pointers false core suffixes).kinds glyphs)
    (ends : EndsDeclarator rest) : StopsSpecifiers (glyphs ++ rest) := by
  obtain ⟨front, back, rfl, before, behind⟩ := OfKinds.of_append spelled
  obtain ⟨operators, tokens, rfl, own, middle⟩ := OfKinds.of_append before
  have follows := isRead.follows tokens (back ++ rest) middle (suffixes_follow each behind ends)
  rw [List.append_assoc, List.append_assoc]
  rcases row.front own with ⟨_, rfl⟩ | ⟨first, tail, rfl, mark, kind, isPointer⟩
  · exact follows.stopsSpecifiers
  · refine .mark kind ?_
    rintro rfl
    cases isPointer

theorem parameter_isRead {words : List Keyword} (cv : Qualifiers)
    (builtin : ∀ word ∈ words, word.isBuiltinType = true) (nonempty : words ≠ [])
    (isRead : shape.IsReadDeclarator nest) :
    (Tree.parameter (.builtinSpecifiers cv words) shape .absent).IsReadParameter nest := by
  have kinds : (Tree.parameter (.builtinSpecifiers cv words) shape .absent).kinds =
      (cv.before words).map .keyword ++ shape.kinds := by
    rw [← kinds_builtinSpecifiers]
    rfl
  refine ⟨fun glyphs rest spelled ends g derived sure context room => ?_, ?_⟩
  · rw [kinds] at spelled
    obtain ⟨type, tokens, rfl, typed, own⟩ := OfKinds.of_append spelled
    have stops := isRead.stops tokens rest own ends.endsDeclarator
    rw [List.append_assoc]
    refine (specifiers_reads_before typed builtin nonempty stops derived).andThen ?_
    refine (isRead.reads .maybeNamed trivial tokens rest own ends.endsDeclarator g derived sure context
      room).andThen ?_
    have noDefault : g.defaultValue.Reads context sure rest (· = none) rest :=
      (ends.missing (by decide)).andThen (.pure rfl)
    exact noDefault.andThen (.pure rfl)
  · rw [kinds]
    have wordly : ∀ word ∈ cv.before words, word.isTypeWord = true := isTypeWord_of_mem_before builtin
    obtain ⟨word, more, front⟩ := exists_first_word cv nonempty
    rw [front] at wordly ⊢
    exact ⟨word, more.map .keyword ++ shape.kinds, rfl, wordly word (List.mem_cons_self ..)⟩

/-- What reading back comes to for each part of a declarator. -/
def IsReadBack (nest : Nat) : {c : Category} → Tree c → Prop
  | .declarator, shape => shape.IsReadDeclarator (nest + 2)
  | .declaratorSuffix, suffix => suffix.IsReadSuffix (nest + 1)
  | .parameter, item => item.IsReadParameter (nest + 2)
  | _, _ => True

theorem InsideOut.row {pack : Bool} (inside : InsideOut nest (.declarator pointers pack core suffixes)) :
    pointers.PointerRow := by
  cases inside <;> assumption

theorem InsideOut.isReadBack {c : Category} {tree : Tree c} (inside : InsideOut nest tree) :
    tree.IsReadBack nest := by
  induction inside with
  | @named nest pointers ident suffixes row plain each ih =>
    refine ⟨fun mode suits => ?_, ?_⟩
    · have named : mode ≠ .unnamed ∧ mode ≠ .pointersOnly := by
        constructor <;> (rintro rfl; cases suits)
      exact declarator_isRead row named.2 (declaredName_isReadCore ident named.1) ih
    · have core : (Tree.declaredName (.simpleName ident)).IsReadCore .maybeNamed (nest + 1) :=
        declaredName_isReadCore ident (by decide)
      exact declarator_stops row core ih
  | @abstract nest pointers suffixes row each ih =>
    refine ⟨fun mode suits => ?_, ?_⟩
    · have unnamed : mode ≠ .named ∧ mode ≠ .pointersOnly := by
        constructor <;> (rintro rfl; cases suits)
      exact declarator_isRead row unnamed.2 (unnamed_isReadCore unnamed.1) ih
    · have core : Tree.unnamed.IsReadCore .maybeNamed (nest + 1) := unnamed_isReadCore (by decide)
      exact declarator_stops row core ih
  | @nested nest pointers inside core suffixes within row some inner each innerBack ih =>
    have around (mode : DeclaratorMode) (suits : mode.Suits (.declarator inside false core within)) :
        (Tree.nestedDeclarator (.declarator inside false core within)).IsReadCore mode (nest + 2) :=
      nestedDeclarator_isReadCore inner.row some (innerBack.reads mode suits)
    refine ⟨fun mode suits => ?_, declarator_stops row (around .maybeNamed trivial) ih⟩
    have shaped : mode ≠ .pointersOnly := by
      rintro rfl
      cases suits
    have through : mode.Suits (.declarator inside false core within) := by
      cases mode <;> exact suits
    exact declarator_isRead row shaped (around mode through) ih
  | array bound =>
    refine ⟨fun mode found glyphs rest spelled follows => ?_, fun glyphs rest spelled follows => ?_⟩
    · refine RuleReads.mono ?_ (Nat.le_add_left 1 _)
      exact (arraySuffix_reads bound mode found spelled follows.ne_nil).1
    · exact (arraySuffix_reads bound .named [] spelled follows.ne_nil).2
  | function variadic each ih => exact functionSuffix_isRead variadic ih
  | @parameter nest words shape cv builtin nonempty shaped ih =>
    have shapeBack : shape.IsReadDeclarator (nest + 2) := ih
    exact parameter_isRead cv builtin nonempty shapeBack

end Tree

end CppSyntax
