import CppSyntax.Proofs.Declarator.Spaces
import CppSyntax.Proofs.RoundTrip.Lines

/-!
Typedefs of builtin types under declarators that nest both ways. They are read back as they are,
whatever the layout.
-/

namespace CppSyntax

open CppSyntax.Parser Grammar Doc

/-- Rows of tokens, each behind a mark. -/
def Punctuator.before (mark : Punctuator) (rows : List (List TokenKind)) : List TokenKind :=
  (rows.map (.punctuator mark :: ·)).flatten

theorem laterDeclarators_written {shapes : Trees .declarator}
    (each : ∀ shape ∈ shapes.toList, shape.IsWrittenDeclarator) (layout : Layout) :
    SpellsBefore endsDeclarator
        (concat (shapes.drawn.map fun shape => ", " ++ shape.drawing.standalone) layout).toList
        (Punctuator.comma.before shapes.kinds) ∧
      ∀ rest, OpensIn endsDeclarator rest → OpensIn endsDeclarator
        ((concat (shapes.drawn.map fun shape => ", " ++ shape.drawing.standalone) layout).toList ++
          rest) := by
  cases shapes with
  | nil => exact ⟨.nil, fun _ opens => opens⟩
  | cons shape shapes =>
    obtain ⟨first, others⟩ := List.forall_mem_cons.mp each
    obtain ⟨later, stops⟩ := laterDeclarators_written others layout
    have own := SpellsBefore.commaSpace.append (first.standalone layout) fun rest opens => opens.behind
    have row := own.append later stops
    refine ⟨?_, fun rest _ => ?_⟩
    · simpa [Trees.drawn, Trees.kinds, concat, Punctuator.before] using row
    · exact ⟨',', _, by simp [Trees.drawn, concat]; rfl, rfl⟩

/-- A typedef of a builtin type. -/
def Tree.builtinTypedef (cv : Qualifiers) (words : List Keyword) (shapes : Trees .declarator) :
    Tree .declarationForm :=
  .typedef (.builtinSpecifiers cv words) shapes

theorem typedef_text (cv : Qualifiers) (words : List Keyword) (first : Declarator)
    (shapes : Trees .declarator) (layout : Layout) :
    ((Tree.builtinTypedef cv words (.cons first shapes)).drawing layout).toList =
      Keyword.kwTypedef.spelling.toList ++ ' ' ::
        ((DeclaratorDoc.afterSpecifiers (Tree.builtinSpecifiers cv words).drawing first.drawing
            layout).toList ++
          (concat (shapes.drawn.map fun shape => ", " ++ shape.drawing.standalone) layout).toList ++
          Punctuator.semicolon.spelling.toList) := by
  have drawn : (Tree.builtinTypedef cv words (.cons first shapes)).drawing layout =
      "typedef " ++ DeclaratorDoc.afterSpecifiers (Tree.builtinSpecifiers cv words).drawing
        first.drawing layout ++ concat ((shapes.drawn.map (·.drawing)).map fun shape =>
          ", " ++ shape.standalone) layout ++ ";" := rfl
  rw [drawn, List.map_map]
  simp [Keyword.spelling, Punctuator.spelling, Function.comp_def]

theorem typedef_written {words : List Keyword} {first : Declarator} {shapes : Trees .declarator}
    (cv : Qualifiers) (nonempty : words ≠ [])
    (each : ∀ shape ∈ (Trees.cons first shapes).toList, shape.IsWrittenDeclarator) (layout : Layout) :
    SpellsBefore (fun _ => true)
      ((Tree.builtinTypedef cv words (.cons first shapes)).drawing layout).toList
      (.keyword .kwTypedef :: ((cv.before words).map .keyword ++ first.kinds ++
        Punctuator.comma.before shapes.kinds ++ [.punctuator .semicolon])) := by
  obtain ⟨start, others⟩ := List.forall_mem_cons.mp each
  obtain ⟨later, stops⟩ := laterDeclarators_written others layout
  have declared := (Tree.afterSpecifiers_written cv nonempty start layout).append later stops
  have semicolon : SpellsBefore (fun _ => true) Punctuator.semicolon.spelling.toList
      [.punctuator .semicolon] := .finished rfl
  have body := declared.append semicolon fun rest _ => ⟨';', rest, rfl, rfl⟩
  have whole := (SpellsBefore.word .kwTypedef).beforeSpace body
  rw [Tree.kinds_builtinSpecifiers] at whole
  rw [typedef_text]
  exact whole

section

variable {glyphs rest : List Glyph} {context : Context} {sure : Prop} {g : Grammar Parser} {nest : Nat}

theorem declareTypes_reads (idents : List String) :
    (Parser.declareTypes idents : Parser _).Reads context sure glyphs (fun _ => True) glyphs := by
  induction idents with
  | nil => exact .pure trivial
  | cons ident idents ih => exact (Reads.declareType ident).bind fun _ _ => ih

/-- One more declarator of a typedef, or the end of them. -/
def Grammar.typedefStep (g : Grammar Parser) (shapes : List Declarator) :
    Parser (List Declarator ⊕ List Declarator) := do
  unless ← accept .comma do return .inr shapes
  return .inl (shapes ++ [← g.declarator .named])

theorem endsDeclarator_before {closed : Bool} {rows : List (List TokenKind)}
    (spelled : OfKinds (Punctuator.comma.before rows) glyphs) :
    EndsDeclarator (glyphs ++ ⟨.punctuator .semicolon, closed⟩ :: rest) := by
  cases rows with
  | nil =>
    obtain rfl := OfKinds.of_nil spelled
    exact ⟨_, _, _, rfl, by decide⟩
  | cons row rows =>
    obtain ⟨joint, later, rfl, _⟩ := OfKinds.of_cons spelled
    exact ⟨_, _, _, rfl, by decide⟩

private theorem typedef_loop {glyphs : List Glyph} {shapes : Trees .declarator} {closed : Bool}
    (each : ∀ shape ∈ shapes.toList, shape.IsRead (fun g => g.declarator .named) nest EndsDeclarator)
    (spelled : OfKinds (Punctuator.comma.before shapes.kinds) glyphs) (found : List Declarator)
    (derived : g.IsDerived) (room : Room sure context nest) (fuel : Nat) :
    (iterate g.typedefStep fuel found).Reads context sure
      (glyphs ++ ⟨.punctuator .semicolon, closed⟩ :: rest) (· = found ++ shapes.toList)
      (⟨.punctuator .semicolon, closed⟩ :: rest) := by
  cases shapes with
  | nil =>
    obtain rfl := OfKinds.of_nil spelled
    rw [List.nil_append, Trees.toList, List.append_nil]
    refine .stopWith ?_ fuel
    exact (Reads.missing (by simp)).andThen (.pure rfl)
  | cons shape shapes =>
    obtain ⟨first, others⟩ := List.forall_mem_cons.mp each
    obtain ⟨joint, later, rfl, behind⟩ := OfKinds.of_cons spelled
    obtain ⟨own, back, rfl, ownKinds, backKinds⟩ := OfKinds.of_append behind
    let ending : List Glyph := back ++ ⟨.punctuator .semicolon, closed⟩ :: rest
    have ends : EndsDeclarator ending := endsDeclarator_before backKinds
    have one := first own ending ownKinds ends g derived sure context room
    have step : (g.typedefStep found).Reads context sure (⟨.punctuator .comma, joint⟩ :: (own ++ ending))
        (· = .inl (found ++ [shape])) ending :=
      (Reads.accept (by simp [ends.ne_nil]) rfl).andThen (one.andThen (.pure rfl))
    rw [List.cons_append, List.append_assoc]
    refine .again step (fun fuel => ?_) fuel
    refine Reads.mono (typedef_loop others backKinds (found ++ [shape]) derived room fuel)
      fun all same => ?_
    simpa [Trees.toList] using same

/-- A typedef is read from the first declarator on. -/
theorem typedefForm_reads {first : Declarator} {shapes : Trees .declarator} {closed : Bool}
    (each : ∀ shape ∈ shapes.toList, shape.IsRead (fun g => g.declarator .named) nest EndsDeclarator)
    (spelled : OfKinds (Punctuator.comma.before shapes.kinds) glyphs) (more : rest ≠ [])
    (specs : ParsedSpecifiers) :
    RuleReads (fun g => g.typedefForm specs first) nest
      (glyphs ++ ⟨.punctuator .semicolon, closed⟩ :: rest)
      (· = .typedef specs.tree (.cons first shapes)) rest := by
  intro g derived sure context room
  refine (typedef_loop each spelled [first] derived room g.fuel).andThen ?_
  refine (Reads.expect more rfl).bind fun _ _ => ?_
  refine (declareTypes_reads _).bind fun _ _ => .pure ?_
  show Tree.typedef specs.tree (Trees.ofList (Trees.cons first shapes).toList) = _
  rw [Trees.ofList_toList]

/-- The specifiers of a typedef before its first declarator. -/
theorem typedefSpecifiers_read {words : List Keyword} {type : List Glyph} {joint : Bool} {scope : Scope}
    {cv : Qualifiers} (spelled : SpellWords (cv.before words) type)
    (builtin : ∀ word ∈ words, word.isBuiltinType = true) (nonempty : words ≠ [])
    (stops : StopsSpecifiers rest) (derived : g.IsDerived) :
    (g.specifiers scope).Reads context sure (⟨.keyword .kwTypedef, joint⟩ :: (type ++ rest))
      (· = ⟨[], [], [], some (.builtinType cv (words.map Keyword.spelling)), true, true⟩) rest := by
  refine derived.symbol (.specifiers scope) fun inner _ => ?_
  have more : type ++ rest ≠ [] := by
    obtain ⟨first, tail, rfl, _⟩ := stops
    simp
  let named : SpecifierDraft := ⟨⟨[], [], [], none, true, true⟩, .none, []⟩
  have step : (inner.specifierStep scope .empty).Reads context sure
      (⟨.keyword .kwTypedef, joint⟩ :: (type ++ rest)) (· = .inl named) (type ++ rest) := by
    refine .byPlace fun state known => ?_
    rw [State.kind_of_glyphs known]
    have advanced : (Parser.advance : Parser Unit).Reads context sure
        (⟨.keyword .kwTypedef, joint⟩ :: (type ++ rest)) (fun _ => True) (type ++ rest) :=
      .advance more (by simp)
    exact advanced.bind fun _ _ => .pure rfl
  have loop : (inner.loop (inner.specifierStep scope) .empty).Reads context sure
      (⟨.keyword .kwTypedef, joint⟩ :: (type ++ rest))
      (· = ⟨⟨[], [], [], none, true, true⟩, cv, words.map Keyword.spelling⟩) rest :=
    .again step (typeWords_read rfl ⟨rfl, rfl⟩ spelled builtin nonempty stops) inner.fuel
  refine loop.andThen ?_
  rw [type?_words nonempty]
  exact .pure rfl

private theorem declarationForm_reads_typedef {words : List Keyword} {cv : Qualifiers}
    {first : Declarator} {shapes : Trees .declarator} {type tail ending : List Glyph} {next : Glyph}
    {joint : Bool} (spelled : SpellWords (cv.before words) type)
    (builtin : ∀ word ∈ words, word.isBuiltinType = true) (nonempty : words ≠ [])
    (stops : StopsSpecifiers (next :: tail)) (noSemicolon : next.kind ≠ .punctuator .semicolon)
    (shape : RuleReads (fun g => g.declarator .named) nest (next :: tail) (· = first) ending)
    (later : ∀ specs : ParsedSpecifiers, RuleReads (fun g => g.typedefForm specs first) nest ending
      (· = .typedef specs.tree shapes) rest) :
    RuleReads (fun g => g.declarationForm .inNamespace) nest
      (⟨.keyword .kwTypedef, joint⟩ :: (type ++ next :: tail)) (· = .builtinTypedef cv words shapes)
      rest := by
  intro g derived sure context room
  have specs : (g.specifiers .inNamespace).Reads context sure
      (⟨.keyword .kwTypedef, joint⟩ :: (type ++ next :: tail))
      (· = ⟨[], [], [], some (.builtinType cv (words.map Keyword.spelling)), true, true⟩)
      (next :: tail) := typedefSpecifiers_read spelled builtin nonempty stops derived
  have form : (g.simpleForm .inNamespace).Reads context sure
      (⟨.keyword .kwTypedef, joint⟩ :: (type ++ next :: tail)) (· = .builtinTypedef cv words shapes)
      rest := by
    refine specs.andThen ?_
    refine (Reads.missing noSemicolon).andThen ?_
    refine (shape g derived sure context room).andThen ?_
    exact later _ g derived sure context room
  refine .byPlace fun state known => ?_
  rw [State.kind_of_glyphs known]
  exact .byPlace fun _ _ => form

/-- Something stands before the end of a declarator with a name. -/
theorem Tree.InsideOut.front {shape : Declarator} (inside : shape.InsideOut nest)
    (named : shape.declaredName?.isSome = true) :
    ∃ kind more, shape.kinds = kind :: more ∧ kind ≠ .punctuator .semicolon := by
  have before {pointers : Trees .pointerOperator} {core : Tree .declaratorCore}
      {suffixes : Trees .declaratorSuffix} (row : pointers.PointerRow)
      (opens : ∃ kind more, core.kinds = kind :: more ∧ kind ≠ .punctuator .semicolon) :
      ∃ kind more, (Tree.declarator pointers false core suffixes).kinds = kind :: more ∧
        kind ≠ .punctuator .semicolon := by
    obtain ⟨kind, more, kinds, other⟩ := opens
    rw [Tree.kinds, kinds]
    cases row with
    | nil => exact ⟨kind, more ++ suffixes.kinds.flatten, rfl, other⟩
    | pointer cv later => exact ⟨.punctuator .star, _, rfl, by simp⟩
    | lvalue => exact ⟨.punctuator .ampersand, _, rfl, by simp⟩
    | rvalue => exact ⟨.punctuator .andAnd, _, rfl, by simp⟩
  cases inside with
  | @named _ _ ident _ row plain each =>
    exact before row ⟨.identifier ident, [], Punctuator.between_single .scope _, by simp⟩
  | abstract row each => cases named
  | nested row some inner each => exact before row ⟨.punctuator .leftParen, _, rfl, by simp⟩

/-- A typedef is read from its tokens. -/
theorem typedef_reads {words : List Keyword} {first : Declarator} {shapes : Trees .declarator}
    {cv : Qualifiers} (builtin : ∀ word ∈ words, word.isBuiltinType = true) (nonempty : words ≠ [])
    (each : ∀ shape ∈ (Trees.cons first shapes).toList,
      shape.InsideOut nest ∧ shape.declaredName?.isSome = true)
    (spelled : OfKinds (.keyword .kwTypedef :: ((cv.before words).map .keyword ++ first.kinds ++
      Punctuator.comma.before shapes.kinds ++ [.punctuator .semicolon])) glyphs) (more : rest ≠ []) :
    RuleReads (fun g => g.declarationForm .inNamespace) (nest + 2) (glyphs ++ rest)
      (· = .builtinTypedef cv words (.cons first shapes)) rest := by
  have read (shape : Declarator) (member : shape ∈ (Trees.cons first shapes).toList) :
      shape.IsReadDeclarator (nest + 2) := (each shape member).1.isReadBack
  have isRead (shape : Declarator) (member : shape ∈ (Trees.cons first shapes).toList) :
      shape.IsRead (fun g => g.declarator .named) (nest + 2) EndsDeclarator :=
    (read shape member).reads .named (each shape member).2
  obtain ⟨⟨inside, named⟩, _⟩ := List.forall_mem_cons.mp each
  obtain ⟨start, others⟩ := List.forall_mem_cons.mp isRead
  obtain ⟨joint, later, rfl, body⟩ := OfKinds.of_cons spelled
  obtain ⟨declared, close, rfl, declaredKinds, closeKinds⟩ := OfKinds.of_append body
  obtain ⟨closed, _, rfl, none⟩ := OfKinds.of_cons closeKinds
  obtain rfl := OfKinds.of_nil none
  obtain ⟨typed, back, rfl, typedKinds, backKinds⟩ := OfKinds.of_append declaredKinds
  obtain ⟨type, own, rfl, typeWords, ownKinds⟩ := OfKinds.of_append typedKinds
  let ending : List Glyph := back ++ ⟨.punctuator .semicolon, closed⟩ :: rest
  have ends : EndsDeclarator ending := endsDeclarator_before backKinds
  have stops := (read first (List.mem_cons_self ..)).stops own ending ownKinds ends
  obtain ⟨kind, _, kinds, noSemicolon⟩ := inside.front named
  obtain ⟨spaced, tail, rfl, _⟩ := OfKinds.of_cons (kinds ▸ ownKinds)
  have text : (⟨.keyword .kwTypedef, joint⟩ :: (type ++ (⟨kind, spaced⟩ :: tail) ++ back ++
      [⟨.punctuator .semicolon, closed⟩]) ++ rest : List Glyph) =
      ⟨.keyword .kwTypedef, joint⟩ :: (type ++ ((⟨kind, spaced⟩ :: tail) ++ ending)) := by
    simp [ending]
  have shape := start (⟨kind, spaced⟩ :: tail) ending ownKinds ends
  rw [text]
  exact declarationForm_reads_typedef typeWords builtin nonempty stops noSemicolon shape
    (typedefForm_reads others backKinds more)

end

/-- The tokens of a typedef of a builtin type. -/
def typedefKinds (cv : Qualifiers) (words : List Keyword) (first : Declarator)
    (shapes : Trees .declarator) : List TokenKind :=
  .keyword .kwTypedef :: ((cv.before words).map .keyword ++ first.kinds ++
    Punctuator.comma.before shapes.kinds ++ [.punctuator .semicolon])

theorem typedef_hasKinds {nest : Nat} {words : List Keyword} {first : Declarator}
    {shapes : Trees .declarator} (cv : Qualifiers)
    (builtin : ∀ word ∈ words, word.isBuiltinType = true) (nonempty : words ≠ [])
    (each : ∀ shape ∈ (Trees.cons first shapes).toList,
      shape.InsideOut nest ∧ shape.declaredName?.isSome = true) :
    (Tree.builtinTypedef cv words (.cons first shapes)).HasKinds (nest + 2)
      (typedefKinds cv words first shapes) where
  stands := rfl
  opens := ⟨.keyword .kwTypedef, _, rfl, by simp, by simp⟩
  written layout := by
    rw [Tree.lineText_eq rfl]
    exact typedef_written cv nonempty (fun shape member => (each shape member).1.isWrittenOut) layout
  read _ _ spelled more g derived context room :=
    typedef_reads builtin nonempty each spelled more g derived True context room

/-- A typedef of a builtin type survives under all declarators that nest within the limit. -/
theorem typedef_survives {nest : Nat} {words : List Keyword} {shapes : Trees .declarator}
    (cv : Qualifiers) (builtin : ∀ word ∈ words, word.isBuiltinType = true) (nonempty : words ≠ [])
    (any : shapes ≠ .nil)
    (each : ∀ shape ∈ shapes.toList, shape.InsideOut nest ∧ shape.declaredName?.isSome = true)
    (fits : nest + 3 ≤ nestingLimit) (location : Location) (blankLineBefore : Bool)
    (options : RenderOptions) :
    survives options (.single location blankLineBefore (.builtinTypedef cv words shapes)) = true := by
  cases shapes with
  | nil => exact absurd rfl any
  | cons first shapes =>
    exact (typedef_hasKinds cv builtin nonempty each).survives fits location blankLineBefore options

/-- The abstract declarator of `(*)(...)`, a pointer to a function that takes anything. -/
def Tree.anyCallback : Declarator :=
  .declarator .nil false
    (.nestedDeclarator (.declarator (.cons (.pointer .none) .nil) false .unnamed .nil))
    (.cons (.functionSuffix (.bareSignature .nil true)) .nil)

/-- The declarator of `*(*const f[2])(char (*)(...))`. -/
def Tree.callbackTable : Declarator :=
  .declarator (.cons (.pointer .none) .nil) false
    (.nestedDeclarator (.declarator (.cons (.pointer ⟨true, false⟩) .nil) false
      (.declaredName (.simpleName "f"))
      (.cons (.arraySuffix (.present (.literal ⟨.integer, "2"⟩))) .nil)))
    (.cons (.functionSuffix (.bareSignature
      (.cons (.parameter (.builtinSpecifiers .none [.kwChar]) .anyCallback .absent) .nil) false)) .nil)

theorem Tree.anyCallback_insideOut : Tree.anyCallback.InsideOut 1 := by
  have variadic : (Tree.functionSuffix (.bareSignature .nil true)).InsideOut 1 := .function true nofun
  exact .nested .nil nofun (.abstract (.pointer .none .nil) nofun) (List.forall_mem_singleton.mpr variadic)

theorem Tree.callbackTable_insideOut : Tree.callbackTable.InsideOut 2 := by
  have size : (Tree.arraySuffix (.present (.literal ⟨.integer, "2"⟩))).InsideOut 1 :=
    .array (.present (by decide))
  have callback : (Tree.parameter (.builtinSpecifiers .none [.kwChar]) .anyCallback .absent).InsideOut 1 :=
    .parameter .none (by decide) (by decide) anyCallback_insideOut
  have function : (Tree.functionSuffix (.bareSignature
      (.cons (.parameter (.builtinSpecifiers .none [.kwChar]) .anyCallback .absent) .nil)
      false)).InsideOut 2 := .function false (List.forall_mem_singleton.mpr callback)
  refine .nested (.pointer .none .nil) nofun ?_ (List.forall_mem_singleton.mpr function)
  exact .named (.pointer ⟨true, false⟩ .nil) (by decide) (List.forall_mem_singleton.mpr size)

/-- The typedef `typedef unsigned long *(*const f[2])(char (*)(...));` -/
theorem typedef_survives_callbackTable : survives .standard (.single ⟨0, 0⟩ false
    (.builtinTypedef .none [.kwUnsigned, .kwLong] (.cons .callbackTable .nil))) = true := by
  have each : ∀ shape ∈ (Trees.cons Tree.callbackTable .nil).toList,
      shape.InsideOut 2 ∧ shape.declaredName?.isSome = true :=
    List.forall_mem_singleton.mpr ⟨Tree.callbackTable_insideOut, rfl⟩
  exact typedef_survives .none (by decide) (by decide) (by simp) each (by decide) ⟨0, 0⟩ false .standard

end CppSyntax
