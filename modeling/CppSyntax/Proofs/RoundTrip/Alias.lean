import CppSyntax.Proofs.Angles.Writing
import CppSyntax.Proofs.RoundTrip.Lines

/-!
Aliases of types with lists of template arguments in each other. They are read back as they are,
whatever the layout.
-/

namespace CppSyntax

open CppSyntax.Parser Grammar

/-- The tokens of an alias. -/
def aliasKinds (ident : String) (target : TypeId) : List TokenKind :=
  .keyword .kwUsing :: .identifier ident :: .punctuator .assign ::
    (target.kinds ++ [.punctuator .semicolon])

variable {ident : String} {target : TypeId}

theorem typeAlias_text (ident : String) (target : TypeId) (layout : Layout) :
    ((Tree.typeAlias ident target).drawing layout).toList =
      Keyword.kwUsing.spelling.toList ++ ' ' :: (ident.toList ++ ' ' ::
        (Punctuator.assign.spelling.toList ++ ' ' :: ((target.drawing.doc layout).toList ++
          Punctuator.semicolon.spelling.toList))) := by
  show ("using " ++ ident ++ " = " ++ target.drawing.doc layout ++ ";").toList = _
  simp [Keyword.spelling, Punctuator.spelling]

theorem typeAlias_written (valid : isIdentifier ident = true)
    (written : target.drawing.doc.Spells endsDeclarator target.kinds) (layout : Layout) :
    SpellsBefore (fun _ => true) ((Tree.typeAlias ident target).drawing layout).toList
      (aliasKinds ident target) := by
  have semicolon : SpellsBefore (fun _ => true) Punctuator.semicolon.spelling.toList
      [.punctuator .semicolon] := .finished rfl
  have type := (written.spells layout).append semicolon fun rest _ => ⟨';', rest, rfl, rfl⟩
  have assign : SpellsBefore (· == ' ') Punctuator.assign.spelling.toList [.punctuator .assign] := by
    refine .mark fun c isSpace => ?_
    obtain rfl : c = ' ' := beq_iff_eq.mp isSpace
    rfl
  have value := assign.append type.space fun rest _ => ⟨' ', _, rfl, rfl⟩
  rw [typeAlias_text]
  exact (SpellsBefore.word .kwUsing).beforeSpace ((SpellsBefore.identifier valid).beforeSpace value)

section

variable {glyphs rest : List Glyph} {context : Context} {g : Grammar Parser} {nest : Nat}

private theorem aliasForm_reads {joint spaced closed : Bool} (isRead : target.IsReadType nest)
    (spelled : OfKinds target.kinds glyphs) (more : rest ≠ []) (derived : g.IsDerived)
    (fits : context.depth + nest ≤ nestingLimit) :
    g.aliasForm.Reads context True (⟨.identifier ident, joint⟩ :: ⟨.punctuator .assign, spaced⟩ ::
      (glyphs ++ ⟨.punctuator .semicolon, closed⟩ :: rest)) (· = .typeAlias ident target) rest := by
  let ending : List Glyph := ⟨.punctuator .semicolon, closed⟩ :: rest
  have type : g.typeId.Reads context True (glyphs ++ ending) (· = target) ending :=
    isRead.reads glyphs ending spelled ⟨_, _, _, rfl, by decide⟩ g derived context fits
  refine (Reads.expectIdentifier (by simp) rfl).andThen ?_
  refine (Reads.advance (by simp) (by simp)).bind fun _ _ => ?_
  refine type.andThen ?_
  refine (Reads.declareType ident).bind fun _ _ => ?_
  exact (Reads.expect more rfl).bind fun _ _ => .pure rfl

/-- An alias is read from its tokens. -/
theorem typeAlias_reads (isRead : target.IsReadType nest)
    (spelled : OfKinds (aliasKinds ident target) glyphs) (more : rest ≠ []) (derived : g.IsDerived)
    (fits : context.depth + nest ≤ nestingLimit) :
    (g.declarationForm .inNamespace).Reads context True (glyphs ++ rest) (· = .typeAlias ident target)
      rest := by
  obtain ⟨first, _, rfl, named⟩ := OfKinds.of_cons spelled
  obtain ⟨joint, _, rfl, assigned⟩ := OfKinds.of_cons named
  obtain ⟨spaced, _, rfl, body⟩ := OfKinds.of_cons assigned
  obtain ⟨type, _, rfl, typed, close⟩ := OfKinds.of_append body
  obtain ⟨closed, _, rfl, none⟩ := OfKinds.of_cons close
  obtain rfl := OfKinds.of_nil none
  let tail : List Glyph := ⟨.identifier ident, joint⟩ :: ⟨.punctuator .assign, spaced⟩ ::
    (type ++ ⟨.punctuator .semicolon, closed⟩ :: rest)
  have text : ((⟨.keyword .kwUsing, first⟩ :: ⟨.identifier ident, joint⟩ ::
      ⟨.punctuator .assign, spaced⟩ :: (type ++ [⟨.punctuator .semicolon, closed⟩])) ++ rest :
        List Glyph) = ⟨.keyword .kwUsing, first⟩ :: tail := by
    simp [tail]
  have form : g.usingForm.Reads context True (⟨.keyword .kwUsing, first⟩ :: tail)
      (· = .typeAlias ident target) rest := by
    refine (Reads.expectWord (by simp [tail]) rfl).bind fun _ _ => ?_
    refine (Reads.missingWord (by simp)).andThen (.byPlace fun state known => ?_)
    have isAlias : (state.isAtIdentifier && state.isAhead 1 .assign) = true := by
      rw [State.isAhead, State.ahead_one_of_glyphs known, State.isAtIdentifier,
        State.kind_of_glyphs known]
      rfl
    rw [isAlias]
    exact aliasForm_reads isRead typed more derived fits
  rw [text]
  refine .byPlace fun state known => ?_
  rw [State.kind_of_glyphs known]
  exact .byPlace fun _ _ => form

end

theorem typeAlias_hasKinds {nest : Nat} (valid : isIdentifier ident = true)
    (angled : target.InAngles nest) :
    (Tree.typeAlias ident target).HasKinds (nest + 1) (aliasKinds ident target) where
  stands := rfl
  opens := ⟨.keyword .kwUsing, _, rfl, by simp, by simp⟩
  written layout := by
    rw [Tree.lineText_eq rfl]
    exact typeAlias_written valid angled.isWrittenAngled layout
  read _ _ spelled more _ derived _ room :=
    typeAlias_reads angled.isReadAngled spelled more derived (room.allowed trivial)

/-- An alias of a type survives under all lists of template arguments that nest within the limit. -/
theorem typeAlias_survives {nest : Nat} (valid : isIdentifier ident = true)
    (angled : target.InAngles nest) (fits : nest + 2 ≤ nestingLimit) (location : Location)
    (blankLineBefore : Bool) (options : RenderOptions) :
    survives options (.single location blankLineBefore (.typeAlias ident target)) = true :=
  (typeAlias_hasKinds valid angled).survives fits location blankLineBefore options

/-- The type `int *`. -/
def Tree.intPointer : TypeId :=
  .typeId (.builtinType .none ([.kwInt].map Keyword.spelling))
    (.declarator (.cons (.pointer .none) .nil) false .unnamed .nil)

/-- The type `B<int *>`. -/
def Tree.pointerBox : TypeId :=
  .typeId (.namedType .none (.qualifiedName false (.cons
      (.templateSegment "B" (.cons (.typeArgument .intPointer) .nil) false) .nil)))
    (.declarator .nil false .unnamed .nil)

/-- The type `const ::A<3, B<int *>>::C<> *const &`. -/
def Tree.nestedBoxes : TypeId :=
  .typeId (.namedType ⟨true, false⟩ (.qualifiedName true (.cons (.templateSegment "A"
      (.cons (.valueArgument (.literal ⟨.integer, "3"⟩)) (.cons (.typeArgument .pointerBox) .nil)) false)
      (.cons (.templateSegment "C" .nil false) .nil))))
    (.declarator (.cons (.pointer ⟨true, false⟩) (.cons .lvalueReference .nil)) false .unnamed .nil)

theorem Tree.pointerBox_inAngles : Tree.pointerBox.InAngles 1 := by
  have pointer : Tree.intPointer.InAngles 0 :=
    .builtin .none (.pointer .none .nil) (by decide) (by decide)
  have part : (Tree.templateSegment "B" (.cons (.typeArgument .intPointer) .nil) false).InAngles 1 :=
    .template (by decide) (List.forall_mem_singleton.mpr (.type pointer))
  exact .named .none .nil (.name false (List.forall_mem_singleton.mpr part))

theorem Tree.nestedBoxes_inAngles : Tree.nestedBoxes.InAngles 2 := by
  have each : ∀ argument ∈ [Tree.valueArgument (.literal ⟨.integer, "3"⟩), .typeArgument .pointerBox],
      argument.InAngles 1 :=
    List.forall_mem_cons.mpr ⟨.value (by decide),
      List.forall_mem_singleton.mpr (.type pointerBox_inAngles)⟩
  have first : (Tree.templateSegment "A" (.cons (.valueArgument (.literal ⟨.integer, "3"⟩))
      (.cons (.typeArgument .pointerBox) .nil)) false).InAngles 2 := .template (by decide) each
  have second : (Tree.templateSegment "C" .nil false).InAngles 2 := .template (by decide) nofun
  refine .named ⟨true, false⟩ (.pointer ⟨true, false⟩ .lvalue) (.name true ?_)
  exact List.forall_mem_cons.mpr ⟨first, List.forall_mem_singleton.mpr second⟩

/-- The alias `using X = const ::A<3, B<int *>>::C<> *const &;` -/
theorem typeAlias_survives_nestedBoxes :
    survives .standard (.single ⟨0, 0⟩ false (.typeAlias "X" .nestedBoxes)) = true :=
  typeAlias_survives (by decide) Tree.nestedBoxes_inAngles (by decide) ⟨0, 0⟩ false .standard

end CppSyntax
