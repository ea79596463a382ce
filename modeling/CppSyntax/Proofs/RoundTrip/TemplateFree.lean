import CppSyntax.Proofs.RoundTrip.Branches
import CppSyntax.Proofs.WellFormed.Shape

/-!
Names without template arguments. A unit without them is written so that none are read where its
operators stand.
-/

namespace CppSyntax

open CppSyntax.Parser

def Node.without (erasure : Erasure) (node : Node) : Node := (node.2.without erasure).node

theorem Trees.nodes_without (erasure : Erasure) (items : Trees c) :
    (items.without erasure).nodes = items.nodes.map (Node.without erasure) := by
  simp only [Trees.nodes, Trees.toList_without, List.map_map]
  rfl

theorem Part.nodes_without (erasure : Erasure) (part : Part c) :
    (part.without erasure).nodes = part.nodes.map (Node.without erasure) := by
  cases part <;> rfl

theorem Tree.parts_without (erasure : Erasure) (tree : Tree c) :
    (tree.without erasure).parts = tree.parts.map (Node.without erasure) := by
  cases tree <;> first
    | rfl
    | simp only [List.map_append, ← Trees.nodes_without, ← Part.nodes_without]; rfl

theorem Node.Within.without {node root : Node} (inside : node.Within root) (erasure : Erasure) :
    (node.without erasure).Within (root.without erasure) := by
  induction inside with
  | self => exact .self
  | @under parent child among _ ih =>
    refine .under ?_ ih
    show _ ∈ (parent.2.without erasure).parts
    rw [Tree.parts_without]
    exact List.mem_map_of_mem among

theorem Node.Within.of_without {node root : Node} {erasure : Erasure}
    (inside : node.Within (root.without erasure)) :
    ∃ inner : Node, inner.Within root ∧ inner.without erasure = node := by
  generalize same : root.without erasure = target at inside
  induction inside generalizing root with
  | self => exact ⟨root, .self, same⟩
  | @under parent child among _ ih =>
    subst same
    rw [show (root.without erasure).2.parts = _ from Tree.parts_without erasure root.2] at among
    obtain ⟨part, below, rfl⟩ := List.mem_map.mp among
    obtain ⟨inner, within, rfl⟩ := ih rfl
    exact ⟨inner, .under below within, rfl⟩

/-- What does not depend on places holds throughout a tree if and only if it holds throughout the erased
one. -/
theorem Node.everywhere_without_iff {holds : Node → Prop} {root : Node} {erasure : Erasure}
    (same : ∀ node : Node, holds (node.without erasure) ↔ holds node) :
    (root.without erasure).Everywhere holds ↔ root.Everywhere holds := by
  constructor
  · exact fun everywhere node inside => (same node).mp (everywhere _ (inside.without erasure))
  · intro everywhere node inside
    obtain ⟨inner, within, rfl⟩ := inside.of_without
    exact (same inner).mpr (everywhere inner within)

/-- Whether the node is a name with a list of template arguments. -/
def Node.isTemplateId : Node → Bool
  | ⟨.segment, .templateSegment ..⟩ => true
  | _ => false

theorem Node.isTemplateId_without (erasure : Erasure) (node : Node) :
    (node.without erasure).isTemplateId = node.isTemplateId := by
  obtain ⟨c, tree⟩ := node
  cases tree <;> rfl

/-- No name within the tree has a list of template arguments. -/
def Tree.IsTemplateFree (tree : Tree c) : Prop := tree.node.Everywhere (·.isTemplateId = false)

namespace Tree

theorem isTemplateFree_iff {tree : Tree c} : tree.IsTemplateFree ↔
    tree.node.isTemplateId = false ∧ ∀ child ∈ tree.parts, child.2.IsTemplateFree :=
  Node.everywhere_iff

theorem isTemplateFree_erase {tree : Tree c} : tree.erase.IsTemplateFree ↔ tree.IsTemplateFree := by
  have same (node : Node) : (node.without .places).isTemplateId = false ↔ node.isTemplateId = false := by
    rw [node.isTemplateId_without]
  exact @Node.everywhere_without_iff _ tree.node _ same

section

variable {d : Category} {tree : Tree c} (other : tree.node.isTemplateId = false)

include other

theorem isTemplateFree_leaf (none : tree.parts = []) : tree.IsTemplateFree :=
  isTemplateFree_iff.mpr ⟨other, none ▸ List.forall_mem_nil _⟩

theorem isTemplateFree_single {inner : Tree d} (one : tree.parts = [inner.node])
    (free : inner.IsTemplateFree) : tree.IsTemplateFree :=
  isTemplateFree_iff.mpr ⟨other, one ▸ List.forall_mem_singleton.mpr free⟩

theorem isTemplateFree_pair {d' : Category} {first : Tree d} {second : Tree d'}
    (two : tree.parts = [first.node, second.node]) (firstFree : first.IsTemplateFree)
    (secondFree : second.IsTemplateFree) : tree.IsTemplateFree :=
  isTemplateFree_iff.mpr ⟨other, two ▸ List.forall_mem_cons.mpr
    ⟨firstFree, List.forall_mem_singleton.mpr secondFree⟩⟩

theorem isTemplateFree_items {items : Trees d} (all : tree.parts = items.nodes)
    (free : ∀ item ∈ items.toList, item.IsTemplateFree) : tree.IsTemplateFree := by
  refine isTemplateFree_iff.mpr ⟨other, fun child among => ?_⟩
  obtain ⟨item, member, rfl⟩ := List.mem_map.mp (all ▸ among)
  exact free item member

end

theorem isTemplateFree_simpleName (ident : String) : (simpleName ident).IsTemplateFree :=
  isTemplateFree_single rfl rfl (isTemplateFree_leaf rfl rfl)

theorem isTemplateFree_integer (digits : String) : (integer digits).IsTemplateFree :=
  isTemplateFree_leaf rfl rfl

theorem isTemplateFree_integerTest (digits : String) : (integerTest digits).IsTemplateFree :=
  isTemplateFree_single rfl rfl (isTemplateFree_integer digits)

theorem isTemplateFree_plainDeclarator : plainDeclarator.IsTemplateFree :=
  isTemplateFree_single rfl rfl (isTemplateFree_leaf rfl rfl)

theorem Nameless.isTemplateFree {value : Expr} (nameless : value.Nameless) : value.IsTemplateFree := by
  induction nameless with
  | integer | boolean | nullPointer | this | throwingNothing => exact isTemplateFree_leaf rfl rfl
  | unary _ _ ih | throwing _ ih | foldBefore _ _ ih | foldBehind _ _ ih =>
    exact isTemplateFree_single rfl rfl ih
  | binary _ _ _ first second | assignment _ _ _ first second | index _ _ first second
  | foldBetween _ _ _ first second =>
    exact isTemplateFree_pair rfl rfl first second
  | conditional _ _ _ first second third =>
    exact isTemplateFree_iff.mpr ⟨rfl, List.forall_mem_cons.mpr
      ⟨first, List.forall_mem_cons.mpr ⟨second, List.forall_mem_singleton.mpr third⟩⟩⟩
  | call _ _ object items =>
    refine isTemplateFree_iff.mpr ⟨rfl, List.forall_mem_cons.mpr ⟨object, fun child member => ?_⟩⟩
    obtain ⟨value, inside, rfl⟩ := List.mem_map.mp member
    exact items value inside
  | @cast cv words _ _ _ _ ih =>
    have type : (builtinType cv (words.map Keyword.spelling)).IsTemplateFree :=
      isTemplateFree_leaf rfl rfl
    have target : (builtin cv words).IsTemplateFree :=
      isTemplateFree_pair rfl rfl type isTemplateFree_plainDeclarator
    exact isTemplateFree_pair rfl rfl target ih

theorem OverNames.isTemplateFree {value : Expr} (names : value.OverNames) : value.IsTemplateFree := by
  induction names with
  | name => exact isTemplateFree_single rfl rfl (isTemplateFree_simpleName _)
  | @word word value known =>
    cases word <;> cases known <;> exact isTemplateFree_leaf rfl rfl
  | unary op _ ih => exact isTemplateFree_single rfl rfl ih
  | binary _ _ _ first second | assignment _ _ _ first second | index _ _ first second =>
    exact isTemplateFree_pair rfl rfl first second
  | conditional _ _ _ _ _ _ first second third =>
    exact isTemplateFree_iff.mpr ⟨rfl, List.forall_mem_cons.mpr
      ⟨first, List.forall_mem_cons.mpr ⟨second, List.forall_mem_singleton.mpr third⟩⟩⟩
  | call _ _ object items =>
    refine isTemplateFree_iff.mpr ⟨rfl, List.forall_mem_cons.mpr ⟨object, fun child member => ?_⟩⟩
    obtain ⟨value, inside, rfl⟩ := List.mem_map.mp member
    exact items value inside
  | member _ _ _ first =>
    exact isTemplateFree_pair rfl rfl first (isTemplateFree_simpleName _)

theorem IsNumberBefore.isTemplateFree {init : Part .statement} {digits : Option String}
    (before : IsNumberBefore init digits) : ∀ child ∈ init.nodes, child.2.IsTemplateFree := by
  cases before with
  | absent => exact List.forall_mem_nil _
  | present place decimal =>
    refine List.forall_mem_singleton.mpr (isTemplateFree_single rfl rfl ?_)
    exact isTemplateFree_single rfl rfl (isTemplateFree_integer _)

theorem isTemplateFree_inBraces {body : Statement} (free : body.IsTemplateFree) :
    body.inBraces.IsTemplateFree := by
  refine isTemplateFree_single rfl rfl (isTemplateFree_single rfl rfl ?_)
  exact isTemplateFree_single rfl rfl free

private theorem isTemplateFree_block {statements : Trees .statement}
    (free : ∀ inner ∈ statements.toList, inner.repaired.IsTemplateFree) :
    (block statements.repaired []).IsTemplateFree := by
  refine isTemplateFree_items rfl rfl ?_
  rw [← statements.ofList_toList, Trees.repaired_ofList, Trees.toList_ofList]
  exact List.forall_mem_map.mpr free

mutual

/-- No names have template arguments in what such a statement is read back as. -/
theorem OfNumbers.repaired_isTemplateFree : {body : Statement} → body.OfNumbers →
    body.repaired.IsTemplateFree
  | _, .intro _ _ inner => isTemplateFree_single rfl rfl inner.repaired_isTemplateFree

theorem FormOfNumbers.repaired_isTemplateFree : {form : Tree .statementForm} → form.FormOfNumbers →
    form.repaired.IsTemplateFree
  | _, .nothing => isTemplateFree_leaf rfl rfl
  | _, .breaking => isTemplateFree_leaf rfl rfl
  | _, .continuing => isTemplateFree_leaf rfl rfl
  | _, .defaultLabel => isTemplateFree_leaf rfl rfl
  | _, .goto _ => isTemplateFree_leaf rfl rfl
  | _, .label _ => isTemplateFree_leaf rfl rfl
  | _, .returningNothing => isTemplateFree_leaf rfl rfl
  | _, .caseLabel _ => isTemplateFree_single rfl rfl (isTemplateFree_integer _)
  | _, .evaluating _ => isTemplateFree_single rfl rfl (isTemplateFree_integer _)
  | _, .returning nameless => isTemplateFree_single rfl rfl nameless.isTemplateFree
  | _, .returningNames names => isTemplateFree_single rfl rfl names.isTemplateFree
  | _, .compound inside =>
    isTemplateFree_single rfl rfl
      (isTemplateFree_block fun inner member => (inside inner member).repaired_isTemplateFree)
  | .ifStatement _ _ _ _ .absent, .branching before _ inner => by
    have first := inner.repaired_isTemplateFree
    refine isTemplateFree_iff.mpr ⟨rfl, List.forall_mem_append.mpr ⟨?_, List.forall_mem_nil _⟩⟩
    exact List.forall_mem_append.mpr ⟨before.isTemplateFree, List.forall_mem_cons.mpr
      ⟨isTemplateFree_integerTest _, List.forall_mem_singleton.mpr first⟩⟩
  | .ifStatement _ _ _ branch (.present _), .branchingBoth before _ first second => by
    have inner := first.repaired_isTemplateFree
    have taken : Tree.IsTemplateFree (if branch.endsInOpenIf then branch.repaired.inBraces
        else branch.repaired) := by
      split
      · exact isTemplateFree_inBraces inner
      · exact inner
    refine isTemplateFree_iff.mpr ⟨rfl, List.forall_mem_append.mpr
      ⟨?_, List.forall_mem_singleton.mpr second.repaired_isTemplateFree⟩⟩
    exact List.forall_mem_append.mpr ⟨before.isTemplateFree, List.forall_mem_cons.mpr
      ⟨isTemplateFree_integerTest _, List.forall_mem_singleton.mpr taken⟩⟩
  | _, .repeating _ inner =>
    isTemplateFree_pair rfl rfl (isTemplateFree_integerTest _) inner.repaired_isTemplateFree
  | _, .doing _ inner =>
    isTemplateFree_pair rfl rfl inner.repaired_isTemplateFree (isTemplateFree_integer _)
  | _, @FormOfNumbers.counting init _ test step _ before _ _ inner => by
    have tested : ∀ child ∈ (Part.ofOption (test.map integerTest)).nodes, child.2.IsTemplateFree := by
      cases test with
      | none => exact List.forall_mem_nil _
      | some digits => exact List.forall_mem_singleton.mpr (isTemplateFree_integerTest digits)
    have stepped : ∀ child ∈ (Part.ofOption (step.map integer)).nodes, child.2.IsTemplateFree := by
      cases step with
      | none => exact List.forall_mem_nil _
      | some digits => exact List.forall_mem_singleton.mpr (isTemplateFree_integer digits)
    refine isTemplateFree_iff.mpr ⟨rfl, List.forall_mem_append.mpr
      ⟨?_, List.forall_mem_singleton.mpr inner.repaired_isTemplateFree⟩⟩
    exact List.forall_mem_append.mpr
      ⟨List.forall_mem_append.mpr ⟨before.isTemplateFree, tested⟩, stepped⟩
  | _, .switching before _ inner => by
    refine isTemplateFree_iff.mpr ⟨rfl, List.forall_mem_append.mpr ⟨before.isTemplateFree, ?_⟩⟩
    exact List.forall_mem_cons.mpr ⟨isTemplateFree_integerTest _,
      List.forall_mem_singleton.mpr inner.repaired_isTemplateFree⟩
  | _, @FormOfNumbers.trying statements first others inside caught => by
    have body := isTemplateFree_block fun inner member => (inside inner member).repaired_isTemplateFree
    refine isTemplateFree_iff.mpr ⟨rfl, List.forall_mem_cons.mpr ⟨body, ?_⟩⟩
    show ∀ child ∈ (Trees.ofList ((first :: others).map handlerOf)).repaired.nodes, _
    rw [Trees.repaired_ofList, Trees.nodes, Trees.toList_ofList, List.forall_mem_map, List.forall_mem_map,
      List.forall_mem_map]
    intro statements member
    exact isTemplateFree_single rfl rfl
      (isTemplateFree_block fun inner inside => (caught statements member inner inside).repaired_isTemplateFree)

end

theorem isTemplateFree_builtinSpecifiers (cv : Qualifiers) (words : List Keyword) :
    (builtinSpecifiers cv words).IsTemplateFree := by
  have type : (builtinType cv (words.map Keyword.spelling)).IsTemplateFree := isTemplateFree_leaf rfl rfl
  exact isTemplateFree_single rfl rfl type

theorem isTemplateFree_plainFunction {body : Tree .block} (free : body.IsTemplateFree) :
    (plainFunction body).IsTemplateFree := by
  have specs : (Tree.specifiers [] [] [] (.present (.builtinType .none ["void"]))).IsTemplateFree :=
    isTemplateFree_builtinSpecifiers .none [.kwVoid]
  have parameters : (Tree.parameterList .nil false).IsTemplateFree := isTemplateFree_leaf rfl rfl
  have signature : plainSignature.IsTemplateFree := isTemplateFree_single rfl rfl parameters
  have defined : (Tree.defined body).IsTemplateFree := isTemplateFree_single rfl rfl free
  refine isTemplateFree_iff.mpr ⟨rfl, List.forall_mem_cons.mpr ⟨specs, ?_⟩⟩
  refine List.forall_mem_cons.mpr ⟨isTemplateFree_simpleName "f", ?_⟩
  exact List.forall_mem_cons.mpr ⟨signature, List.forall_mem_singleton.mpr defined⟩

theorem isTemplateFree_initialized {value : Expr} (cv : Qualifiers) (words : List Keyword)
    (ident : String) (free : value.IsTemplateFree) :
    (initialized cv words ident value).IsTemplateFree := by
  have core : (Tree.declaredName (.simpleName ident)).IsTemplateFree :=
    isTemplateFree_single rfl rfl (isTemplateFree_simpleName ident)
  have shape : (namedDeclarator ident).IsTemplateFree := isTemplateFree_single rfl rfl core
  have init : (Tree.assignInit value).IsTemplateFree := isTemplateFree_single rfl rfl free
  have declared : (Tree.initDeclarator (namedDeclarator ident) .absent
      (.present (.assignInit value))).IsTemplateFree := isTemplateFree_pair rfl rfl shape init
  exact isTemplateFree_pair rfl rfl (isTemplateFree_builtinSpecifiers cv words) declared

/-- Functions of statements whose expressions are numbers or returned, and variables. What is returned and
what a variable starts as holds no names or simple names only. -/
inductive DeclaresValue : Tree .declarationForm → Prop where
  | function {statements : Trees .statement} (inside : ∀ body ∈ statements.toList, body.OfNumbers) :
      DeclaresValue (.plainFunction (.block statements []))
  | initialized (cv : Qualifiers) {words : List Keyword} {ident : String} {value : Expr}
      (builtin : ∀ word ∈ words, word.isBuiltinType = true) (nonempty : words ≠ [])
      (valid : isIdentifier ident = true) (known : value.Nameless ∨ value.OverNames) :
      DeclaresValue (.initialized cv words ident value)

/-- Whatever depth such a declaration has, no template arguments are read in its text. -/
theorem DeclaresValue.rereads {form : Tree .declarationForm} (declares : form.DeclaresValue) :
    ∃ shape, form.Rereads False 0 shape ∧ shape.IsTemplateFree := by
  cases declares with
  | @function statements inside =>
    have stated : ∀ body ∈ statements.toList, body.StatedAs _ body.readBack :=
      Trees.stated_mono (fun body member => (inside body member).statedAs) (Nat.le_refl _)
    refine ⟨_, (plainFunction_rereads stated).unsure, isTemplateFree_plainFunction ?_⟩
    refine isTemplateFree_items rfl rfl ?_
    rw [Trees.toList_ofList, List.forall_mem_map]
    exact fun body member => isTemplateFree_erase.mpr (inside body member).repaired_isTemplateFree
  | @initialized cv words ident value builtin nonempty valid known =>
    obtain ⟨nest, last, free⟩ : ∃ nest, value.StandsLast nest ∧ value.IsTemplateFree := by
      rcases known with nameless | names
      · exact ⟨_, nameless.written.standsLast, nameless.isTemplateFree⟩
      · exact ⟨_, names.laidOut.standsLast, names.isTemplateFree⟩
    exact ⟨_, (last.initialized builtin nonempty valid).unsure,
      isTemplateFree_initialized cv words ident (isTemplateFree_erase.mpr free)⟩

private theorem shapes_of_forall {members : List Declaration} (each : ∀ inner ∈ members, ∃ shape,
      RereadsAlone False 0 inner shape ∧ shape.IsTemplateFree) :
    ∃ shapes, List.Forall₂ (RereadsAlone False 0) members shapes ∧
      ∀ shape ∈ shapes, shape.IsTemplateFree := by
  induction members with
  | nil => exact ⟨[], .nil, List.forall_mem_nil _⟩
  | cons inner members ih =>
    obtain ⟨⟨shape, reread, free⟩, others⟩ := List.forall_mem_cons.mp each
    obtain ⟨shapes, rereads, allFree⟩ := ih others
    exact ⟨shape :: shapes, .cons reread rereads, List.forall_mem_cons.mpr ⟨free, allFree⟩⟩

/-- Whatever is read of the text of a unit of such declarations, no `<` of it opens a list of template
arguments. -/
theorem DeclaresValue.reread_isTemplateFree {declarations : Trees .declaration}
    (each : ∀ inner ∈ declarations.toList, ∃ location blankLineBefore form,
      inner = .declaration ⟨location, [], none, blankLineBefore⟩ form ∧ form.DeclaresValue)
    {options : RenderOptions} {again : TranslationUnit}
    (read : parse (render options (.unit declarations [])) = .ok again) : again.IsTemplateFree := by
  obtain ⟨shapes, rereads, free⟩ := shapes_of_forall fun inner member => by
    obtain ⟨location, blankLineBefore, form, same, declares⟩ := each inner member
    obtain ⟨shape, known, free⟩ := declares.rereads
    exact ⟨shape, ⟨location, blankLineBefore, form, same, known⟩, free⟩
  rcases reread_unit rereads False.elim options with ⟨unit, ok, same⟩ | ⟨_, error, failed⟩
  · obtain rfl : again = unit := Except.ok.inj (read.symm.trans ok)
    rw [← isTemplateFree_erase, same]
    refine isTemplateFree_items rfl rfl ?_
    rw [Trees.toList_ofList, List.forall_mem_map]
    exact fun shape member => isTemplateFree_single rfl rfl (free shape member)
  · rw [failed] at read
    cases read

/-- The expression `a < b ? c : d`. -/
def comparedChoice : Expr :=
  .conditional (.binary .less (.nameExpression (.simpleName "a")) (.nameExpression (.simpleName "b")))
    (.nameExpression (.simpleName "c")) (.nameExpression (.simpleName "d"))

/-- The expression `(a < b) > (c, this)`. -/
def comparedTwice : Expr :=
  .binary .greater
    (.binary .less (.nameExpression (.simpleName "a")) (.nameExpression (.simpleName "b")))
    (.binary .comma (.nameExpression (.simpleName "c")) .this)

/-- A variable that starts as the first expression, and a function that returns the second one in a loop. -/
def comparingUnit : TranslationUnit :=
  .unit (.cons (.declaration ⟨⟨1, 1⟩, [], none, false⟩
      (.initialized ⟨true, false⟩ [.kwBool] "v" comparedChoice))
    (.cons (.declaration ⟨⟨2, 1⟩, [], none, true⟩ (.plainFunction (.block (.cons
      (.statement .erased (.whileStatement (.integerTest "1")
        (.statement .erased (.returnStatement (.present comparedTwice))))) .nil) []))) .nil)) []

/-- Without the parentheses the text of the second expression would be a call of the function template
`a<b>`. -/
theorem DeclaresValue.reread_isTemplateFree_compared :
    ∃ again, parse (render .standard comparingUnit) = .ok again ∧ again.IsTemplateFree := by
  have less : (Tree.binary .less (.nameExpression (.simpleName "a"))
      (.nameExpression (.simpleName "b"))).OverNames :=
    .binary (by decide) (.name (by decide)) (.name (by decide))
  have this : ReadsAs.wordExpression? .kwThis = some .this := rfl
  have choice : comparedChoice.OverNames :=
    .conditional less (.name (by decide)) (.name (by decide)) (by decide)
      (writesNoGreater_name (by decide) (by decide)) (writesNoGreater_name (by decide) (by decide))
  have twice : comparedTwice.OverNames :=
    .binary (by decide) less (.binary (by decide) (.name (by decide)) (.word this))
  have flag : (Tree.initialized ⟨true, false⟩ [.kwBool] "v" comparedChoice).DeclaresValue :=
    .initialized _ (by decide) (by decide) (by decide) (.inr choice)
  have body : (Tree.statement .erased (.whileStatement (.integerTest "1")
      (.statement .erased (.returnStatement (.present comparedTwice))))).OfNumbers :=
    .intro rfl rfl (.repeating (by decide) (.intro rfl rfl (.returningNames twice)))
  have loop : (Tree.plainFunction (.block (.cons (.statement .erased (.whileStatement (.integerTest "1")
      (.statement .erased (.returnStatement (.present comparedTwice))))) .nil) [])).DeclaresValue :=
    .function (List.forall_mem_singleton.mpr body)
  have reads : (parse (render .standard comparingUnit)).toOption.isSome = true := by
    decide +kernel
  obtain ⟨again, found⟩ := Option.isSome_iff_exists.mp reads
  have read := toOption_eq_some.mp found
  exact ⟨again, read, DeclaresValue.reread_isTemplateFree (List.forall_mem_cons.mpr
    ⟨⟨_, _, _, rfl, flag⟩, List.forall_mem_singleton.mpr ⟨_, _, _, rfl, loop⟩⟩) read⟩

end Tree

/-- Whether the condition holds of all nodes down to a depth. What is assumed of the nodes below it is
left to the caller. -/
def Node.allTo (holds : Node → Bool) (below : Bool) : Nat → Node → Bool
  | 0, _ => below
  | depth + 1, node => holds node && node.2.parts.all (Node.allTo holds below depth)

theorem Node.everywhere_of_allTo {holds : Node → Bool} {depth : Nat} {root : Node}
    (all : Node.allTo holds false depth root = true) : root.Everywhere (holds · = true) := by
  induction depth generalizing root with
  | zero => cases all
  | succ depth ih =>
    obtain ⟨here, below⟩ := Bool.and_eq_true_iff.mp all
    exact Node.everywhere_iff.mpr ⟨here, fun child among => ih (List.all_eq_true.mp below child among)⟩

theorem Node.allTo_of_everywhere {holds : Node → Bool} (depth : Nat) {root : Node}
    (everywhere : root.Everywhere (holds · = true)) : Node.allTo holds true depth root = true := by
  induction depth generalizing root with
  | zero => rfl
  | succ depth ih =>
    obtain ⟨here, below⟩ := Node.everywhere_iff.mp everywhere
    exact Bool.and_eq_true_iff.mpr ⟨here, List.all_eq_true.mpr fun child among => ih (below child among)⟩

/-- The condition of a conditional stands before the `>` of what the conditional otherwise gives, but is
written as if nothing stood behind it. -/
theorem Tree.parse_opensTemplate : ¬ ∀ (source : String) (unit again : TranslationUnit)
    (options : RenderOptions), parse source = .ok unit → unit.IsTemplateFree →
      parse (render options unit) = .ok again → again.IsTemplateFree := by
  intro stays
  let source := "bool v = (a < b) ? c : d > (x, y);"
  let plain (below : Bool) (unit : TranslationUnit) : Bool :=
    Node.allTo (fun node => !node.isTemplateId) below 20 unit.node
  have opened : (parse source).toOption.bind (fun unit => (parse (render .standard unit)).toOption.map
      fun again => (plain false unit, plain true again)) = some (true, false) := by
    decide +kernel
  obtain ⟨unit, parsed, reread⟩ := Option.bind_eq_some_iff.mp opened
  obtain ⟨again, found, seen⟩ := Option.map_eq_some_iff.mp reread
  obtain ⟨before, after⟩ := Prod.mk.inj seen
  have free : unit.IsTemplateFree := by
    simpa [Tree.IsTemplateFree] using Node.everywhere_of_allTo before
  have stays : again.IsTemplateFree :=
    stays source unit again .standard (toOption_eq_some.mp parsed) free (toOption_eq_some.mp found)
  have all : plain true again = true := Node.allTo_of_everywhere 20 (by
    simpa [Tree.IsTemplateFree] using stays)
  rw [after] at all
  cases all

end CppSyntax
