import CppSyntax.Proofs.Session.Comments
import CppSyntax.Proofs.Session.Grammar.Name

set_option synthInstance.maxSize 4096

/-!
The routines for specifiers and what may be defined in their place mirror their parsers.
-/

namespace CppSyntax.Grammar

open CppSyntax.Parser

variable {L : Likeness} {moves : Bool} {g : Grammar Routine} {h : Grammar Parser}
  [paired : Paired L g h]

section

variable (sights : Sights L)

instance knownTitle_equal {name other : Option String} [equal : Equal name other] :
    Equal (name.any (sights.fst.typeNames.contains ·)) (other.any (sights.snd.typeNames.contains ·)) :=
  ⟨by
    rw [equal.eq]
    refine congrArg other.any (funext fun ident => ?_)
    rw [Bool.eq_iff_iff, List.contains_iff_mem, List.contains_iff_mem]
    exact sights.sees.known ident⟩

instance : Equal sights.fst.atAttribute sights.snd.atAttribute := by
  unfold State.atAttribute
  infer_instance

theorem atClassFinal_seen (first second : State) (sees : L.Sees first second) :
    first.atClassFinal = second.atClassFinal := by
  simp only [State.atClassFinal, State.isAtIdent, State.isAhead, sees.kind, sees.ahead]

instance {kind other : TokenKind} [equal : Equal kind other] :
    Equal kind.isString other.isString :=
  ⟨congrArg _ equal.eq⟩

end

instance : Mirrors L false (Reading.acceptIf (·.atClassFinal) : Routine Bool)
    (Reading.acceptIf (·.atClassFinal)) :=
  Mirrors.acceptIf atClassFinal_seen

instance access_mirrors : Mirrors L false (access? : Routine (Option Access)) access? := by
  unfold Grammar.access?
  refine .byPlace fun sights => ?_
  rw [sights.sees.kind]
  split
  · split <;> infer_instance
  · infer_instance

instance : Mirrors L false (enumKey : Routine (Option ClassKey)) enumKey := by
  unfold Grammar.enumKey
  infer_instance

/-- Bodies between braces mirror each other when what they hold does. -/
theorem braced_mirrors {c : Category} (construct : String) {items : Routine (List (Tree c))}
    {items' : Parser (List (Tree c))} (inner : Mirrors L false items items') :
    MirrorsBy L true L.detail.SameBody (braced construct items) (braced construct items') := by
  unfold Grammar.braced
  refine (Mirrors.expect _ _).mirrors.behind fun _ _ _ => ?_
  refine .trailing fun comment comment' comments => .of_mirrors ?_
  refine inner.mirrors.andThen fun items items' same => .bySight fun first second sees => ?_
  exact (Mirrors.expect _ _).mirrors.andThen fun _ _ _ =>
    .pure (Same.leadWith comments same sees.closing)

section

include paired

instance balancedTokens_mirrors (close : Punctuator) (expected : Expectation) :
    Mirrors L false (g.balancedTokens close expected) (h.balancedTokens close expected) := by
  unfold Grammar.balancedTokens
  refine Mirrors.loopSamePair fun kinds depth => ?_
  refine .byPlace fun sights => ?_
  rw [sights.sees.kind]
  infer_instance

instance : Mirrors L false g.attributeText h.attributeText := by
  unfold Grammar.attributeText
  infer_instance

instance : Mirrors L false g.alignmentText h.alignmentText := by
  unfold Grammar.alignmentText
  infer_instance

instance : Mirrors L false g.attributesAndAlignment h.attributesAndAlignment := by
  unfold Grammar.attributesAndAlignment
  infer_instance

instance : Mirrors L false g.decltype h.decltype := by
  unfold Grammar.decltype
  infer_instance

instance : Mirrors L false g.declaredTitle h.declaredTitle := by
  unfold Grammar.declaredTitle
  infer_instance

instance : Mirrors L false g.baseSpecifier h.baseSpecifier := by
  unfold Grammar.baseSpecifier
  infer_instance

theorem classMembers_mirrors (titles : Likes L.detail (Option Name)) (key : ClassKey) :
    MirrorsBy L true L.detail.SameBody (g.classMembers titles.fst key)
      (h.classMembers titles.snd key) := by
  have enclosing : (titles.fst.bind (·.lastIdent?)).getD "" = (titles.snd.bind (·.lastIdent?)).getD "" := by
    rcases titles.same.options with ⟨left, right⟩ | ⟨title, left, right⟩
    · rw [left, right]
    · have same : title.fst.lastIdent? = title.snd.lastIdent? := Equal.eq
      rw [left, right]
      exact congrArg (Option.getD · "") same
  unfold Grammar.classMembers
  rw [enclosing]
  exact braced_mirrors _ inferInstance

/-- What follows the head of a class definition. -/
private theorem classBody_mirrors (titles : Likes L.detail (Option Name)) (key : ClassKey)
    (attributes alignments : List String) (isFinal : Bool)
    (bases : Likes L.detail (List (Tree .base))) :
    Mirrors L false
      (g.classMembers titles.fst key >>= fun body => pure (.classType .none
        (.classSpecifier key attributes alignments (.ofOption titles.fst) isFinal
          (.ofList bases.fst) (.ofList body.1) body.2)) : Routine TypeSpecifier)
      (h.classMembers titles.snd key >>= fun body => pure (.classType .none
        (.classSpecifier key attributes alignments (.ofOption titles.snd) isFinal
          (.ofList bases.snd) (.ofList body.1) body.2))) := by
  refine ⟨(classMembers_mirrors titles key).weaken.andThen fun first second body => .pure ?_⟩
  have members : Same L.detail first.1 second.1 := body.1
  have definition : Same L.detail
      (Tree.classSpecifier key attributes alignments (.ofOption titles.fst) isFinal
        (.ofList bases.fst) (.ofList first.1) first.2)
      (.classSpecifier key attributes alignments (.ofOption titles.snd) isFinal
        (.ofList bases.snd) (.ofList second.1) second.2) :=
    .classSpecifier inferInstance inferInstance inferInstance body.2
  infer_instance

instance classSpecifier_mirrors (key : ClassKey) :
    Mirrors L false (g.classSpecifier key) (h.classSpecifier key) := by
  unfold Grammar.classSpecifier
  refine .andThenSame fun _ => .andThenSamePair fun attributes alignments => ?_
  refine .andThen fun titles => .andThenSame fun isFinal => ?_
  refine .byPlace fun sights => ?_
  refine .choose ?_ ?_
  · rcases titles.same.options with ⟨left, right⟩ | ⟨title, left, right⟩
    all_goals
      rw [left, right]
      infer_instance
  · refine .andThenSame fun derived => .choose (.andThen fun bases => ?_) (.andThen fun bases => ?_)
    all_goals exact classBody_mirrors titles key attributes alignments isFinal bases

instance enumerator_mirrors : Mirrors L false g.enumerator h.enumerator := by
  unfold Grammar.enumerator
  refine .andThen fun places => .anywhere ⟨?_⟩
  refine (inferInstance : Mirrors L true _ _).mirrors.behind fun ident _ same => ?_
  obtain rfl := same.to_eq
  refine .thenSame fun valued => .choose (.thenPair fun values => ?_) (.thenPair fun values => ?_)
  all_goals
    refine .thenSame fun more => .trailing fun comment comment' comments => ?_
    have place := places.same.withTrailing comments
    exact .of_mirrors (.pure inferInstance)

instance : Mirrors L false g.enumerators h.enumerators := by
  unfold Grammar.enumerators
  infer_instance

instance : Mirrors L false g.enumSpecifier h.enumSpecifier := by
  unfold Grammar.enumSpecifier
  infer_instance

instance (scope : Scope) (enclosing : Option String) :
    Mirrors L false (g.declaratorName scope enclosing) (h.declaratorName scope enclosing) := by
  unfold Grammar.declaratorName
  infer_instance

instance (scope : Scope) :
    Mirrors L false (g.declaratorNameAhead scope) (h.declaratorNameAhead scope) := by
  unfold Grammar.declaratorNameAhead
  infer_instance

theorem keywordType_mirrors (word : Keyword) :
    (g.keywordType word = none ∧ h.keywordType word = none) ∨ ∃ routine parser,
      g.keywordType word = some routine ∧ h.keywordType word = some parser ∧
        Mirrors L false routine parser := by
  unfold Grammar.keywordType
  split
  · exact .inr ⟨_, _, rfl, rfl, inferInstance⟩
  · exact .inr ⟨_, _, rfl, rfl, inferInstance⟩
  · exact .inr ⟨_, _, rfl, rfl, inferInstance⟩
  · exact .inr ⟨_, _, rfl, rfl, inferInstance⟩
  · cases word.classKey? with
    | none => exact .inl ⟨rfl, rfl⟩
    | some key => exact .inr ⟨_, _, rfl, rfl, inferInstance⟩

instance keywordSpecifier_mirrors (drafts : Likes L.detail SpecifierDraft) (word : Keyword) :
    Mirrors L false (g.keywordSpecifier drafts.fst word) (h.keywordSpecifier drafts.snd word) := by
  unfold Grammar.keywordSpecifier
  rcases keywordType_mirrors (L := L) (g := g) (h := h) word with
    ⟨left, right⟩ | ⟨routine, parser, left, right, mirrors⟩
  all_goals
    rw [left, right]
    cases word.modifier? <;> infer_instance

instance (scope : Scope) (drafts : Likes L.detail SpecifierDraft) :
    Mirrors L false (g.namedSpecifier scope drafts.fst) (h.namedSpecifier scope drafts.snd) := by
  unfold Grammar.namedSpecifier
  infer_instance

instance specifierStep_mirrors (scope : Scope) (drafts : Likes L.detail SpecifierDraft) :
    Mirrors L false (g.specifierStep scope drafts.fst) (h.specifierStep scope drafts.snd) := by
  unfold Grammar.specifierStep
  refine .byPlace fun sights => ?_
  rw [sights.sees.kind]
  split <;> infer_instance

instance specifiersRule_mirrors (scope : Scope) :
    Mirrors L false (g.specifiersRule scope) (h.specifiersRule scope) := by
  unfold Grammar.specifiersRule
  refine .andThen fun drafts => ?_
  have types : Same L.detail drafts.fst.type? drafts.snd.type? := inferInstance
  rcases types.options with ⟨left, right⟩ | ⟨type, left, right⟩
  · rw [left, right]
    infer_instance
  · rw [left, right]
    infer_instance

end

end CppSyntax.Grammar
