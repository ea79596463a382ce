import Mathlib.Data.List.Chain
import CppSyntax.Proofs.Account.Contract

/-!
Parsers that make nothing known but what their values introduce. Such a parser stops behind where it
started, and every name that it has made known is introduced as a type by the trees that it answers
with. Some values also introduce what was read before them, which the rule that builds them says.
-/

namespace CppSyntax

open CppSyntax.Parser

/-- Two tokens at which types may be introduced that are not looked at in a tree: the operand of an
exception specification starts behind them, or the class of a member pointer ends before them. -/
def TokenKind.standsApart : TokenKind → TokenKind → Bool
  | .keyword .kwNoexcept, .punctuator .leftParen | .keyword .kwThrow, .punctuator .leftParen
  | .punctuator .scope, .punctuator .star => true
  | _, _ => false

/-- Nowhere among the tokens do types stand apart. -/
def TokenKind.AllLookedAt (kinds : List TokenKind) : Prop :=
  kinds.IsChain fun first second => first.standsApart second = false

instance (kinds : List TokenKind) : Decidable (TokenKind.AllLookedAt kinds) :=
  inferInstanceAs (Decidable (List.IsChain _ kinds))

theorem TokenKind.ne_of_standsApart {first second : TokenKind}
    (apart : first.standsApart second = true) : first ≠ second := by
  rintro rfl
  unfold standsApart at apart
  split at apart
  all_goals simp_all

namespace State

variable {state reached : State}

/-- Nowhere from the current token on do types stand apart. -/
def Clear (state : State) : Prop := TokenKind.AllLookedAt (state.tokens.map Token.kind)

theorem Clear.later (clear : state.Clear) (behind : reached.tokens <:+ state.tokens) : reached.Clear :=
  List.IsChain.suffix clear (behind.map _)

/-- The tokens here and behind here are no two at which types stand apart. -/
theorem Clear.next_kind (clear : state.Clear) {kind : TokenKind}
    (apart : state.kind.standsApart kind = true) : state.next.kind ≠ kind := by
  have other := TokenKind.ne_of_standsApart apart
  unfold State.next
  split
  · exact other
  · split
    · exact other
    · rename_i token rest following
      rintro rfl
      unfold Clear tokens at clear
      rw [following, List.map_cons, List.map_cons] at clear
      have looked := (List.isChain_cons_cons.mp clear).1
      exact Bool.false_ne_true (looked.symm.trans apart)

end State

/-- The value introduces all these names. -/
class Covers [HasNodes α] (before : List String) (value : α) : Prop where
  subset : before ⊆ namesIn value

/-- The nodes introduce all these names. -/
class CoveredBy (before : List String) (nodes : List Node) : Prop where
  subset : before ⊆ Node.typeNames nodes

/-- All parts of the tree are looked at for types. -/
@[reducible] def Tree.LooksAtParts {c : Category} : Tree c → Prop
  | .function .. | .lambda .. => False
  | _ => True

theorem Tree.parts_subset {tree : Tree c} (looks : tree.LooksAtParts) :
    Node.typeNames tree.parts ⊆ tree.typeNames := by
  cases tree <;>
    simp only [parts, Node.typeNames_append, Node.typeNames_cons, Node.typeNames_nil,
      Trees.typeNames_nodes, Part.typeNames_nodes, List.append_nil]
  case function | lambda => exact looks.elim
  case classSpecifier _ _ _ title _ bases members _ =>
    show _ ⊆ title.lastIdents ++ title.typeNames ++ bases.typeNames ++ members.typeNames
    simp only [List.append_assoc, List.subset_append_right]
  case bodilessEnum _ title underlying =>
    show _ ⊆ title.lastIdent?.toList ++ title.typeNames ++ underlying.typeNames
    simp only [List.append_assoc, List.subset_append_right]
  case enumSpecifier _ title underlying enumerators =>
    show _ ⊆ title.lastIdents ++ title.typeNames ++ underlying.typeNames ++ enumerators.typeNames
    simp only [List.append_assoc, List.subset_append_right]
  case templateParameter inner _ _ ident fallback =>
    show _ ⊆ ident.toList ++ inner.typeNames ++ fallback.typeNames
    simp only [List.append_assoc, List.subset_append_right]
  case typedef specs shapes =>
    show _ ⊆ shapes.declaredIdents ++ specs.typeNames ++ shapes.typeNames
    simp only [List.append_assoc, List.subset_append_right]
  case ifStatement | rangeFor | switchStatement | conditional =>
    simp only [← List.append_assoc]
    exact List.Subset.refl _
  all_goals first
    | exact List.Subset.refl _
    | exact List.nil_subset _
    | exact List.subset_append_right _ _

theorem Covers.tree_iff {before : List String} {tree : Tree c} :
    Covers before tree ↔ before ⊆ tree.typeNames :=
  ⟨fun covers => namesIn_tree tree ▸ covers.subset, fun subset => ⟨(namesIn_tree tree).symm ▸ subset⟩⟩

namespace CoveredBy

variable {before more : List String} {tree : Tree c} {items : Trees c} {part : Part c}
  {nodes others : List Node}

instance (priority := 10000) append [first : CoveredBy before nodes] [second : CoveredBy more nodes] :
    CoveredBy (before ++ more) nodes :=
  ⟨List.append_subset.mpr ⟨first.subset, second.subset⟩⟩

instance here [covers : Covers before tree] : CoveredBy before (tree.node :: nodes) :=
  ⟨List.subset_append_of_subset_left _ (Covers.tree_iff.mp covers)⟩

instance later [covers : CoveredBy before nodes] : CoveredBy before (tree.node :: nodes) :=
  ⟨List.subset_append_of_subset_right _ covers.subset⟩

instance left [covers : CoveredBy before nodes] : CoveredBy before (nodes ++ others) :=
  ⟨Node.typeNames_append nodes others ▸ List.subset_append_of_subset_left _ covers.subset⟩

instance right [covers : CoveredBy before others] : CoveredBy before (nodes ++ others) :=
  ⟨Node.typeNames_append nodes others ▸ List.subset_append_of_subset_right _ covers.subset⟩

instance trees [covers : Covers before items] : CoveredBy before items.nodes := ⟨covers.subset⟩

instance optionalTree [covers : Covers before part] : CoveredBy before part.nodes := ⟨covers.subset⟩

end CoveredBy

namespace Covers

variable {before more : List String}

instance (priority := 10001) nothing [HasNodes α] {value : α} : Covers [] value :=
  ⟨List.nil_subset _⟩

instance (priority := 10000) append [HasNodes α] {value : α} [first : Covers before value]
    [second : Covers more value] : Covers (before ++ more) value :=
  ⟨List.append_subset.mpr ⟨first.subset, second.subset⟩⟩

instance (priority := high) itself [HasNodes α] {value : α} : Covers (namesIn value) value :=
  ⟨List.Subset.refl _⟩

section

variable [HasNodes α] [HasNodes β] [HasNodes γ] {a : α} {b : β} {as : List α} {value : γ}

instance treeless [Treeless α] : Covers (namesIn a) value := ⟨namesIn_treeless a ▸ List.nil_subset _⟩

instance ofNil : Covers (namesIn ([] : List α)) value := ⟨List.nil_subset _⟩

instance ofCons [first : Covers (namesIn a) value] [rest : Covers (namesIn as) value] :
    Covers (namesIn (a :: as)) value :=
  ⟨namesIn_cons (a := a) ▸ List.append_subset.mpr ⟨first.subset, rest.subset⟩⟩

instance ofSome [covers : Covers (namesIn a) value] : Covers (namesIn (some a)) value :=
  ⟨namesIn_some (a := a) ▸ covers.subset⟩

instance ofPair [first : Covers (namesIn a) value] [second : Covers (namesIn b) value] :
    Covers (namesIn (a, b)) value :=
  ⟨namesIn_pair (a := a) (b := b) ▸ List.append_subset.mpr ⟨first.subset, second.subset⟩⟩

end

section

variable {tree : Tree c} {items : Trees c} {part : Part c}

instance below [covered : CoveredBy before tree.parts] [looks : Holds tree.LooksAtParts] :
    Covers before tree :=
  tree_iff.mpr (List.Subset.trans covered.subset (Tree.parts_subset looks.holds))

instance lambda {captures : Trees .capture} {parameters : Part .parameterList}
    {isMutable isConstexpr : Bool} {exception : Part .exceptionSpec} {result : Part .typeId}
    {body : Tree .block} [covered : CoveredBy before
      (captures.nodes ++ parameters.nodes ++ result.nodes ++ [body.node])] :
    Covers before
      (Tree.lambda captures parameters isMutable isConstexpr exception result body) := by
  refine tree_iff.mpr (List.Subset.trans covered.subset ?_)
  simp only [Node.typeNames_append, Node.typeNames_cons, Node.typeNames_nil, Trees.typeNames_nodes,
    Part.typeNames_nodes, List.append_nil]
  exact List.Subset.refl _

instance function {specs : Tree .specifiers} {pointers : Trees .pointerOperator} {title : Name}
    {sig : Tree .signature} {isOverride isFinal : Bool} {inits : Trees .memberInit}
    {body : Tree .functionBody} [covered : CoveredBy before
      ([specs.node, title.node, sig.node] ++ inits.nodes ++ [body.node])] :
    Covers before (Tree.function specs pointers title sig isOverride isFinal inits body) := by
  refine tree_iff.mpr (List.Subset.trans covered.subset ?_)
  simp only [Node.typeNames_append, Node.typeNames_cons, Node.typeNames_nil, Trees.typeNames_nodes,
    List.append_nil, ← List.append_assoc]
  exact List.Subset.refl _

instance firstTree [covers : Covers before tree] : Covers before (Trees.cons tree items) :=
  ⟨List.subset_append_of_subset_left _ (tree_iff.mp covers)⟩

instance present [covers : Covers before tree] : Covers before (Part.present tree) :=
  ⟨covers.subset⟩

instance ofList {items : List (Tree c)} [covers : Covers before items] :
    Covers before (Trees.ofList items) :=
  ⟨namesIn_ofList items ▸ covers.subset⟩

instance ofOption {found : Option (Tree c)} [covers : Covers before found] :
    Covers before (Part.ofOption found) :=
  ⟨namesIn_ofOption found ▸ covers.subset⟩

end

variable [HasNodes α] [HasNodes β] {a : α} {b : β} {as bs : List α}

instance listHead [covers : Covers before a] : Covers before (a :: as) :=
  ⟨namesIn_cons (a := a) ▸ List.subset_append_of_subset_left _ covers.subset⟩

instance listTail [covers : Covers before as] : Covers before (a :: as) :=
  ⟨namesIn_cons (a := a) ▸ List.subset_append_of_subset_right _ covers.subset⟩

instance listLeft [covers : Covers before as] : Covers before (as ++ bs) := by
  refine ⟨?_⟩
  rw [namesIn_append]
  exact List.subset_append_of_subset_left _ covers.subset

instance listRight [covers : Covers before bs] : Covers before (as ++ bs) := by
  refine ⟨?_⟩
  rw [namesIn_append]
  exact List.subset_append_of_subset_right _ covers.subset

theorem some_iff : Covers before (some a) ↔ Covers before a :=
  ⟨fun covers => ⟨namesIn_some (a := a) ▸ covers.subset⟩,
    fun covers => ⟨(namesIn_some (a := a)).symm ▸ covers.subset⟩⟩

instance optionSome [covers : Covers before a] : Covers before (some a) := some_iff.mpr covers

instance getD {found : Option α} [covers : Covers before found] {other : α} :
    Covers before (found.getD other) := by
  cases found with
  | none => exact ⟨List.Subset.trans covers.subset (List.nil_subset _)⟩
  | some a => exact some_iff.mp covers

instance optionToList {found : Option α} [covers : Covers before found] : Covers before found.toList :=
  ⟨namesIn_option found ▸ covers.subset⟩

instance fst [covers : Covers before a] : Covers before (a, b) :=
  ⟨namesIn_pair (a := a) (b := b) ▸ List.subset_append_of_subset_left _ covers.subset⟩

instance snd [covers : Covers before b] : Covers before (a, b) :=
  ⟨namesIn_pair (a := a) (b := b) ▸ List.subset_append_of_subset_right _ covers.subset⟩

instance ofPlainPair [Treeless β] {both : α × β} : Covers (namesIn both) both.1 := by
  refine ⟨?_⟩
  rw [show namesIn both = _ from namesIn_pair, namesIn_treeless both.2, List.append_nil]
  exact List.Subset.refl _

instance branch {condition : Prop} [Decidable condition] [Covers before a] {other : α}
    [Covers before other] : Covers before (if condition then a else other) := by
  split <;> assumption

instance inl [covers : Covers before a] : Covers before (.inl a : α ⊕ β) := ⟨covers.subset⟩

instance inr [covers : Covers before b] : Covers before (.inr b : α ⊕ β) := ⟨covers.subset⟩

end Covers

/-- What is known behind a reply was known before or is introduced by its value, which also introduces
what it has to. -/
def Reply.Introduced (names : α → List String) (before : List String) (state : State) : Reply α → Prop
  | .done value reached => reached.tokens <:+ state.tokens ∧
    reached.typeNames ⊆ state.typeNames ++ names value ∧ before ⊆ names value
  | .failed .. | .exhausted => True

/-- What is read behind a place introduces what became known on the way there. -/
theorem Reply.Introduced.since {names : α → List String} {before added : List String}
    {state middle : State} {reply : Reply α} (toMiddle : middle.tokens <:+ state.tokens)
    (known : middle.typeNames ⊆ state.typeNames ++ added)
    (later : reply.Introduced names (before ++ added) middle) :
    reply.Introduced names before state := by
  cases reply with
  | done value reached =>
    obtain ⟨toReached, grown, all⟩ := later
    obtain ⟨ofBefore, ofAdded⟩ := List.append_subset.mp all
    refine ⟨toReached.trans toMiddle, List.Subset.trans grown ?_, ofBefore⟩
    refine List.append_subset.mpr ⟨List.Subset.trans known ?_, List.subset_append_right ..⟩
    exact List.append_subset.mpr
      ⟨List.subset_append_left .., List.subset_append_of_subset_right _ ofAdded⟩
  | failed | exhausted => trivial

/-- Wherever no types stand apart, the value of the parser introduces every name that becomes known,
and the names before. The names of a value are those that it counts as introducing. -/
class IntroducesFor (names : α → List String) (before : List String) (p : Parser α) : Prop where
  introduced (context : Context) (state : State) (clear : state.Clear) :
    (p context state).Introduced names before state

/-- The value of the parser introduces what becomes known and the names before. -/
abbrev Introduces [HasNodes α] (before : List String) (p : Parser α) : Prop :=
  IntroducesFor namesIn before p

/-- The parser makes nothing known. -/
abbrev Silent (p : Parser α) : Prop := IntroducesFor (fun _ => []) [] p

/-- The parser introduces what it has to wherever the current token is of another kind. -/
def IntroducesAway (kind : TokenKind) (names : α → List String) (before : List String) (p : Parser α) :
    Prop :=
  ∀ (context : Context) (state : State), state.Clear → state.kind ≠ kind →
    (p context state).Introduced names before state

namespace IntroducesFor

variable {names : β → List String} {others : α → List String} {before passed : List String}
  {p : Parser α} {f : α → Parser β} {q : Parser β}

/-- A value that introduces fewer names has less to introduce. -/
theorem fewer (more : IntroducesFor names passed q) (subset : before ⊆ passed) :
    IntroducesFor names before q := by
  refine ⟨fun context state clear => ?_⟩
  have introduced := more.introduced context state clear
  cases reply : q context state with
  | done value reached =>
    rw [reply] at introduced
    exact ⟨introduced.1, introduced.2.1, List.Subset.trans subset introduced.2.2⟩
  | failed | exhausted => trivial

/-- A value that introduces what was read before. -/
theorem answer {value : β} (covers : before ⊆ names value) :
    IntroducesFor names before (Pure.pure value : Parser β) :=
  ⟨fun _ _ _ => ⟨List.suffix_rfl, List.subset_append_left .., covers⟩⟩

/-- What follows a parser has to introduce all that its value introduces, besides what was read before
it. -/
theorem andThenOf (first : IntroducesFor others passed p)
    (later : ∀ value, passed ⊆ others value → IntroducesFor names (before ++ others value) (f value)) :
    IntroducesFor names before (p >>= f) := by
  refine ⟨fun context state clear => ?_⟩
  have introduced := first.introduced context state clear
  show (Parser.bind p f context state).Introduced names before state
  unfold Parser.bind
  cases reply : p context state with
  | done value middle =>
    rw [reply] at introduced
    obtain ⟨toMiddle, known, covered⟩ := introduced
    exact ((later value covered).introduced context middle (clear.later toMiddle)).since toMiddle known
  | failed | exhausted => trivial

/-- What is handed on to a parser is introduced by its value. -/
theorem andThenOver (first : IntroducesFor others passed p)
    (later : ∀ value, IntroducesFor names (before ++ others value) (f value)) :
    IntroducesFor names (before ++ passed) (p >>= f) := by
  refine andThenOf first fun value covered => (later value).fewer ?_
  simp [List.subset_append_of_subset_right _ covered]

/-- What follows a parser that makes nothing known. -/
theorem andThenSilent (first : Silent p) (later : ∀ value, IntroducesFor names before (f value)) :
    IntroducesFor names before (p >>= f) :=
  andThenOf first fun value _ => (List.append_nil before).symm ▸ later value

section

variable [HasNodes α] [HasNodes γ]

theorem silent_of_treeless [Treeless α] (first : Introduces [] p) : Silent p := by
  have same : (namesIn : α → List String) = fun _ => [] := funext namesIn_treeless
  rwa [Introduces, same] at first

theorem andThen (first : Introduces [] p)
    (later : ∀ value, IntroducesFor names (before ++ namesIn value) (f value)) :
    IntroducesFor names before (p >>= f) :=
  andThenOf first fun value _ => later value

theorem andThenPlain [Treeless α] (first : Introduces [] p)
    (later : ∀ value, IntroducesFor names before (f value)) : IntroducesFor names before (p >>= f) :=
  andThenSilent (silent_of_treeless first) later

theorem whether {p : Parser (Option α)} {f : Option α → Parser β} (first : Introduces passed p)
    (found : ∀ value, passed ⊆ namesIn value →
      IntroducesFor names (before ++ namesIn value) (f (some value)))
    (missing : IntroducesFor names before (f none)) : IntroducesFor names before (p >>= f) := by
  refine andThenOf first fun value covered => ?_
  cases value with
  | none => exact (List.append_nil before).symm ▸ missing
  | some value => exact namesIn_some (a := value) ▸ found value (namesIn_some (a := value) ▸ covered)

instance bind [first : Introduces [] p]
    [later : ∀ value, IntroducesFor names (before ++ namesIn value) (f value)] :
    IntroducesFor names before (p >>= f) :=
  andThen first later

instance (priority := 10000) bindPlain [Treeless α] [first : Introduces [] p]
    [later : ∀ value, IntroducesFor names before (f value)] : IntroducesFor names before (p >>= f) :=
  andThenPlain first later

instance (priority := 10001) bindOption {p : Parser (Option α)} {f : Option α → Parser β}
    [first : Introduces [] p]
    [found : ∀ value, IntroducesFor names (before ++ namesIn value) (f (some value))]
    [missing : IntroducesFor names before (f none)] : IntroducesFor names before (p >>= f) :=
  whether first (fun value _ => found value) missing

instance (priority := 10001) bindPair {p : Parser (α × γ)} {f : α × γ → Parser β}
    [first : Introduces [] p]
    [later : ∀ a c, IntroducesFor names (before ++ namesIn a ++ namesIn c) (f (a, c))] :
    IntroducesFor names before (p >>= f) := by
  refine andThen first fun (a, c) => ?_
  rw [namesIn_pair, ← List.append_assoc]
  exact later a c

instance (priority := 10002) bindTriple [HasNodes δ] {p : Parser (α × γ × δ)}
    {f : α × γ × δ → Parser β} [first : Introduces [] p]
    [later : ∀ a c d,
      IntroducesFor names (before ++ namesIn a ++ namesIn c ++ namesIn d) (f (a, c, d))] :
    IntroducesFor names before (p >>= f) := by
  refine andThen first fun (a, c, d) => ?_
  rw [namesIn_pair, namesIn_pair, ← List.append_assoc, ← List.append_assoc]
  exact later a c d

/-- A value is nothing that a parser has to be bound for. -/
instance (priority := 10004) bindPure {value : α} [later : IntroducesFor names before (f value)] :
    IntroducesFor names before ((Pure.pure value : Parser α) >>= f) :=
  later

instance pure {value : α} [covers : Covers before value] :
    Introduces before (Pure.pure value : Parser α) :=
  answer covers.subset

instance map {g : α → γ} [first : Introduces [] p]
    [kept : ∀ value, Covers (before ++ namesIn value) (g value)] : Introduces before (g <$> p) :=
  andThen first fun value => answer (kept value).subset

end

/-- Where nothing becomes known, the value has nothing to introduce. -/
instance silence {value : β} : Silent (Pure.pure value : Parser β) := answer (List.nil_subset _)

instance mapSilent {g : α → β} [first : Silent p] : Silent (g <$> p) :=
  andThenSilent first fun _ => silence

instance branch {condition : Prop} [Decidable condition] {other : Parser β}
    [yes : IntroducesFor names before q] [no : IntroducesFor names before other] :
    IntroducesFor names before (if condition then q else other) := by
  split <;> assumption

theorem byPlace {f : State → Parser β} (each : ∀ place, IntroducesFor names before (f place)) :
    IntroducesFor names before (Parser.here >>= f) :=
  ⟨fun context state clear => (each state).introduced context state clear⟩

instance (priority := 10003) here {f : State → Parser β}
    [each : ∀ place, IntroducesFor names before (f place)] :
    IntroducesFor names before (Parser.here >>= f) :=
  byPlace each

/-- A place behind the given one with the same known names. -/
theorem moved {names : α → List String} {value : α} {state reached : State}
    (behind : reached.tokens <:+ state.tokens) (same : reached.typeNames = state.typeNames) :
    (Reply.done value reached).Introduced names [] state :=
  ⟨behind, same ▸ List.subset_append_left .., List.nil_subset _⟩

instance context : Introduces [] (Parser.context : Parser Context) :=
  ⟨fun _ _ _ => moved List.suffix_rfl rfl⟩

instance failWith {error : SyntaxError} :
    IntroducesFor names before (Parser.failWith error : Parser β) :=
  ⟨fun _ _ _ => trivial⟩

instance fail {expected : Expectation} :
    IntroducesFor names before (Parser.fail expected : Parser β) := by
  unfold Parser.fail
  infer_instance

instance advance : Introduces [] (Parser.advance : Parser Unit) :=
  ⟨fun _ state _ => moved state.tokens_next_suffix state.next_typeNames⟩

instance advanceBy {count : Nat} : Introduces [] (Parser.advanceBy count : Parser Unit) := by
  induction count with
  | zero => exact inferInstanceAs (Introduces [] (Pure.pure () : Parser Unit))
  | succ count ih =>
    unfold Parser.advanceBy
    infer_instance

instance acceptIf {passes : State → Bool} :
    Introduces [] (Parser.acceptIf passes : Parser Bool) := by
  refine ⟨fun context state clear => ?_⟩
  rw [Parser.acceptIf_apply]
  split
  · exact moved state.tokens_next_suffix state.next_typeNames
  · exact moved List.suffix_rfl rfl

instance accept {mark : Punctuator} : Introduces [] (Parser.accept mark : Parser Bool) := by
  unfold Parser.accept
  infer_instance

instance acceptWord {word : Keyword} : Introduces [] (Parser.acceptWord word : Parser Bool) := by
  unfold Parser.acceptWord
  infer_instance

instance acceptIdent {ident : String} :
    Introduces [] (Parser.acceptIdent ident : Parser Bool) := by
  unfold Parser.acceptIdent
  infer_instance

instance expect {mark : Punctuator} {purpose : String} :
    Introduces [] (Parser.expect mark purpose : Parser Unit) := by
  unfold Parser.expect
  infer_instance

instance expectWord {word : Keyword} {purpose : String} :
    Introduces [] (Parser.expectWord word purpose : Parser Unit) := by
  unfold Parser.expectWord
  infer_instance

instance optionalIdentifier :
    Introduces [] (Parser.optionalIdentifier : Parser (Option String)) := by
  unfold Parser.optionalIdentifier
  refine byPlace fun place => ?_
  split <;> infer_instance

instance expectIdentifier {purpose : String} :
    Introduces [] (Parser.expectIdentifier purpose : Parser String) := by
  unfold Parser.expectIdentifier
  infer_instance

instance trailingComment : Introduces [] (Parser.trailingComment : Parser (Option String)) := by
  unfold Parser.trailingComment
  infer_instance

section

variable {first second : TokenKind}

/-- Behind the first of two tokens at which types would stand apart the second one is missing. -/
theorem acceptFirst {f : Bool → Parser β} (apart : first.standsApart second = true)
    (yes : IntroducesAway second names before (f true)) (no : IntroducesFor names before (f false)) :
    IntroducesFor names before (Parser.acceptIf (fun state => state.kind == first) >>= f) := by
  refine ⟨fun context state clear => ?_⟩
  show (Parser.bind (Parser.acceptIf _) f context state).Introduced names before state
  unfold Parser.bind
  rw [Parser.acceptIf_apply]
  by_cases isFirst : (state.kind == first) = true
  · rw [if_pos isFirst]
    obtain rfl := eq_of_beq isFirst
    have later := yes context state.next (clear.later state.tokens_next_suffix) (clear.next_kind apart)
    refine Reply.Introduced.since state.tokens_next_suffix ?_ ((List.append_nil before).symm ▸ later)
    exact state.next_typeNames ▸ List.subset_append_left ..
  · rw [if_neg isFirst]
    exact no.introduced context state clear

/-- The second one is not accepted where it is missing. -/
theorem acceptSecond {f : Bool → Parser β} (no : IntroducesFor names before (f false)) :
    IntroducesAway second names before (Parser.acceptIf (fun state => state.kind == second) >>= f) := by
  intro context state clear missing
  show (Parser.bind (Parser.acceptIf _) f context state).Introduced names before state
  unfold Parser.bind
  rw [Parser.acceptIf_apply, if_neg (by simpa using missing)]
  exact no.introduced context state clear

theorem requireFirst {f : Unit → Parser β} {expected : Expectation}
    (apart : first.standsApart second = true) (later : IntroducesAway second names before (f ())) :
    IntroducesFor names before ((do
      unless ← Parser.acceptIf (fun state => state.kind == first) do Parser.fail expected) >>= f) := by
  rw [Parser.bind_assoc]
  exact acceptFirst apart later ⟨fun _ _ _ => trivial⟩

theorem requireSecond {f : Unit → Parser β} {expected : Expectation} :
    IntroducesAway second names before ((do
      unless ← Parser.acceptIf (fun state => state.kind == second) do Parser.fail expected) >>= f) := by
  rw [Parser.bind_assoc]
  exact acceptSecond ⟨fun _ _ _ => trivial⟩

end

theorem declareType (ident : String) :
    IntroducesFor (fun _ => [ident]) [] (Parser.declareType ident : Parser Unit) := by
  refine ⟨fun context state clear => ?_⟩
  rw [Parser.declareType_apply]
  split
  · exact moved List.suffix_rfl rfl
  · exact ⟨List.suffix_rfl, by simp, List.nil_subset _⟩

theorem declareTypes {idents all : List String} (subset : idents ⊆ all) :
    IntroducesFor (fun _ => all) all (Parser.declareTypes idents : Parser Unit) := by
  induction idents with
  | nil => exact answer (List.Subset.refl _)
  | cons ident idents ih =>
    obtain ⟨first, rest⟩ := List.cons_subset.mp subset
    exact andThenOf (declareType ident) fun _ _ => (ih rest).fewer (by simpa using first)

instance (priority := 10003) declareTypeThen {ident : String} {f : Unit → Parser β}
    [later : IntroducesFor names (before ++ [ident]) (f ())] :
    IntroducesFor names before (Parser.declareType ident >>= f) :=
  andThenOf (declareType ident) fun _ _ => later

section

variable [HasNodes α]

/-- A trial hands on what was read, or nothing was read. -/
theorem attemptThen {f : Option α → Parser β} (tried : Introduces passed p)
    (found : ∀ value, passed ⊆ namesIn value →
      IntroducesFor names (before ++ namesIn value) (f (some value)))
    (missing : IntroducesFor names before (f none)) :
    IntroducesFor names before (Parser.attempt p >>= f) := by
  refine ⟨fun context state clear => ?_⟩
  have introduced := tried.introduced context state clear
  show (Parser.bind (Parser.attempt p) f context state).Introduced names before state
  unfold Parser.bind
  rw [Parser.attempt_apply]
  cases reply : p context state with
  | done value middle =>
    rw [reply] at introduced
    obtain ⟨toMiddle, known, covered⟩ := introduced
    exact ((found value covered).introduced context middle (clear.later toMiddle)).since toMiddle known
  | failed => exact missing.introduced context state clear
  | exhausted => trivial

theorem speculateThen {f : Except SyntaxError α → Parser β} (tried : Introduces [] p)
    (done : ∀ value, IntroducesFor names (before ++ namesIn value) (f (.ok value)))
    (failed : ∀ error : SyntaxError, IntroducesFor names before (f (.error error))) :
    IntroducesFor names before (Parser.speculate p >>= f) := by
  refine ⟨fun context state clear => ?_⟩
  have introduced := tried.introduced context state clear
  show (Parser.bind (Parser.speculate p) f context state).Introduced names before state
  unfold Parser.bind
  rw [Parser.speculate_apply]
  cases reply : p context state with
  | done value middle =>
    rw [reply] at introduced
    obtain ⟨toMiddle, known, _⟩ := introduced
    exact ((done value).introduced context middle (clear.later toMiddle)).since toMiddle known
  | failed error stopped => exact (failed error).introduced context state clear
  | exhausted => trivial

instance attempt [tried : Introduces [] p] : Introduces [] (Parser.attempt p : Parser (Option α)) := by
  refine ⟨fun context state clear => ?_⟩
  have introduced := tried.introduced context state clear
  rw [Parser.attempt_apply]
  cases reply : p context state with
  | done value reached =>
    rw [reply] at introduced
    exact ⟨introduced.1, by simpa using introduced.2.1, List.nil_subset _⟩
  | failed => exact moved List.suffix_rfl rfl
  | exhausted => trivial

omit [HasNodes α] in
/-- A trial that makes nothing known, whether it fails or not. -/
theorem attemptSilent {f : Option α → Parser β} (tried : Silent p)
    (later : ∀ found, IntroducesFor names before (f found)) :
    IntroducesFor names before (Parser.attempt p >>= f) := by
  refine andThenSilent ⟨fun context state clear => ?_⟩ later
  have introduced := tried.introduced context state clear
  rw [Parser.attempt_apply]
  cases reply : p context state with
  | done value reached =>
    rw [reply] at introduced
    exact introduced
  | failed => exact moved List.suffix_rfl rfl
  | exhausted => trivial

/-- Looking ahead leaves the place as it is, whatever the parser answers. -/
instance lookahead [Treeless α] : Introduces [] (Parser.lookahead p : Parser (Option α)) := by
  refine ⟨fun context state clear => ?_⟩
  rw [Parser.lookahead_apply]
  cases p context state with
  | done | failed => exact moved List.suffix_rfl rfl
  | exhausted => trivial

end

section

variable [inner : IntroducesFor names before q]

include inner

instance angleCloses {closes : Bool} :
    IntroducesFor names before (Parser.angleCloses closes q : Parser β) :=
  ⟨fun _ => inner.introduced _⟩

instance insideClass {ident : String} :
    IntroducesFor names before (Parser.insideClass ident q : Parser β) :=
  ⟨fun _ => inner.introduced _⟩

instance deeper : IntroducesFor names before (Parser.deeper q : Parser β) :=
  ⟨fun _ => inner.introduced _⟩

instance nested : IntroducesFor names before (Parser.nested q : Parser β) := by
  unfold Parser.nested
  infer_instance

end

/-- What each step of a loop introduces along with the value it started from, the loop introduces in the
end. -/
theorem repeated {names : α ⊕ β → List String} {step : α → Parser (α ⊕ β)}
    (one : ∀ value, IntroducesFor names (names (.inl value)) (step value)) (fuel : Nat) (start : α) :
    IntroducesFor (fun result => names (.inr result)) (names (.inl start))
      (Parser.iterate step fuel start) := by
  induction fuel generalizing start with
  | zero => exact ⟨fun _ _ _ => trivial⟩
  | succ fuel ih =>
    refine andThenOf (one start) fun result covered => ?_
    have all := List.append_subset.mpr ⟨covered, List.Subset.refl _⟩
    cases result with
    | inl again => exact (ih again).fewer all
    | inr result => exact answer all

instance iterate [HasNodes α] [HasNodes γ] {step : α → Parser (α ⊕ γ)}
    [one : ∀ value, Introduces (namesIn value) (step value)] {fuel : Nat} {start : α}
    [covers : Covers before start] : Introduces before (Parser.iterate step fuel start) :=
  (@repeated _ _ namesIn _ one fuel start).fewer covers.subset

instance loop [HasNodes α] [HasNodes γ] {g : Grammar Parser} {step : α → Parser (α ⊕ γ)}
    [∀ value, Introduces (namesIn value) (step value)] {start : α} [Covers before start] :
    Introduces before (g.loop step start) :=
  iterate

end IntroducesFor

end CppSyntax
