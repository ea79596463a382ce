import CppSyntax.Proofs.Grammar.Name

/-!
Specifiers, types, classes and enumerations answer within the supply.
-/

set_option synthInstance.maxSize 4096

namespace CppSyntax.Grammar

open CppSyntax.Parser

variable {supply : Supply} {rank : Nat}

instance : Answers supply rank Never startPlacement := by
  unfold Grammar.startPlacement
  infer_instance

instance balancedTokens_answers (close : Punctuator) (expected : Expectation) :
    Answers supply rank Never (supply.grammar.balancedTokens close expected) := by
  unfold Grammar.balancedTokens
  refine .loopOf fun (kinds, depth) => Answers.byPlace fun state => ?_
  dsimp only
  split
  · exact .anywhere
  · rename_i inside
    split
    · exact .anywhere
    · exact .advance (by simpa [State.atEnd] using inside) inferInstance

instance : Answers supply rank Always supply.grammar.attributeText := by
  unfold Grammar.attributeText
  infer_instance

instance : Answers supply rank Always supply.grammar.alignmentText := by
  unfold Grammar.alignmentText
  infer_instance

instance attributesAndAlignment_answers :
    Answers supply rank Never supply.grammar.attributesAndAlignment := by
  unfold Grammar.attributesAndAlignment
  refine .loopOf fun (attributes, alignments) => ?_
  infer_instance

instance : Answers supply rank Always supply.grammar.decltype := by
  unfold Grammar.decltype
  infer_instance

instance : Answers supply 16 Never supply.grammar.declaredTitle := by
  unfold Grammar.declaredTitle
  infer_instance

instance access_answers : Answers supply rank Never access? := by
  unfold Grammar.access?
  refine .andThen inferInstance fun state => ?_
  split
  · split <;> infer_instance
  · infer_instance

instance : Answers supply 16 Never supply.grammar.baseSpecifier := by
  unfold Grammar.baseSpecifier
  infer_instance

instance (construct : String) (items : Parser (List (Tree c))) [Answers supply 16 Never items] :
    Answers supply rank Always (braced construct items) := by
  unfold Grammar.braced
  infer_instance

instance (title : Option Name) (key : ClassKey) :
    Answers supply rank Always (supply.grammar.classMembers title key) := by
  unfold Grammar.classMembers
  infer_instance

instance : Answers supply rank Always supply.grammar.enumerator := by
  unfold Grammar.enumerator
  infer_instance

instance : Answers supply rank Always supply.grammar.enumerators := by
  unfold Grammar.enumerators
  infer_instance

instance : Answers supply rank Never enumKey := by
  unfold Grammar.enumKey
  infer_instance

instance enumSpecifier_answers : Answers supply rank Always supply.grammar.enumSpecifier := by
  unfold Grammar.enumSpecifier
  refine .movingThen inferInstance fun _ => ?_
  refine .andThen inferInstance fun key => ?_
  refine .andThen inferInstance fun title => ?_
  cases title <;> infer_instance

theorem classSpecifier_at (key : ClassKey) {state : State} (inside : state.atEnd = false) :
    AnswersAt supply rank Always state (supply.grammar.classSpecifier key) := by
  unfold Grammar.classSpecifier
  refine .advance inside ?_
  refine .andThen inferInstance fun (attributes, alignments) => ?_
  refine .andThen inferInstance fun title => ?_
  cases title <;> infer_instance

instance [Below 1 rank] (scope : Scope) (enclosing : Option String) :
    Answers supply rank Always (supply.grammar.declaratorName scope enclosing) := by
  unfold Grammar.declaratorName
  infer_instance

instance [Below 1 rank] (scope : Scope) :
    Answers supply rank Never (supply.grammar.declaratorNameAhead scope) := by
  unfold Grammar.declaratorNameAhead
  infer_instance

/-- The keyword that stands here introduces a type. -/
theorem keywordType_at {word : Keyword} {type : Parser TypeSpecifier} {state : State}
    (found : supply.grammar.keywordType word = some type) (inside : state.atEnd = false) :
    AnswersAt supply rank Always state type := by
  unfold Grammar.keywordType at found
  split at found
  · cases found
    exact .advance inside inferInstance
  · cases found
    exact .anywhere
  · cases found
    exact .anywhere
  · cases found
    exact .advance inside inferInstance
  · obtain ⟨key, _, rfl⟩ := Option.map_eq_some_iff.mp found
    exact classSpecifier_at key inside

theorem keywordSpecifier_at (draft : SpecifierDraft) (word : Keyword) {state : State}
    (inside : state.atEnd = false) :
    AnswersAt supply rank GoesOn state (supply.grammar.keywordSpecifier draft word) := by
  unfold Grammar.keywordSpecifier
  refine .here ?_
  dsimp only
  split
  · exact .anywhere
  split
  · exact .anywhere
  split
  · exact .advance inside inferInstance
  split
  · exact .advance inside inferInstance
  split
  · exact .advance inside inferInstance
  split
  · exact .advance inside inferInstance
  split
  · exact .advance inside inferInstance
  split
  · split
    · rename_i type found
      exact .movingThen (keywordType_at found inside) fun type => inferInstance
    · exact .anywhere
  · exact .anywhere

instance [Below 1 rank] (scope : Scope) (draft : SpecifierDraft) :
    Answers supply rank GoesOn (supply.grammar.namedSpecifier scope draft) := by
  unfold Grammar.namedSpecifier
  infer_instance

instance specifierStep_answers (scope : Scope) (draft : SpecifierDraft) :
    Answers supply 2 GoesOn (supply.grammar.specifierStep scope draft) := by
  unfold Grammar.specifierStep
  refine .byPlace fun state => ?_
  split
  · rename_i word keyword
    exact keywordSpecifier_at draft word (State.inside_of_kind keyword nofun)
  · exact .anywhere
  · exact .anywhere
  · exact .anywhere

instance specifiersRule_answers (scope : Scope) :
    Answers supply 2 Never (supply.grammar.specifiersRule scope) := by
  unfold Grammar.specifiersRule
  refine .andThen inferInstance fun draft => ?_
  cases draft.type? <;> infer_instance

end CppSyntax.Grammar
