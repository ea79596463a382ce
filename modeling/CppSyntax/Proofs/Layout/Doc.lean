import CppSyntax.Proofs.Lexing.Respacing
import CppSyntax.Render.Drawn
import Mathlib.Data.List.Forall2
import Mathlib.Data.Option.Basic

/-!
Documents whose text differs only in its blanks, however it is laid out. Much of a text is decided by
what its parts end or start with, or by the marks they hold. No blank has a part in these decisions, so
in two layouts they come out the same.
-/

namespace CppSyntax

open Text

section

variable {holds : Char → Bool}

theorem any_getLast?_eq (text : List Char) :
    text.getLast?.any holds = text.foldl (fun _ c => holds c) false := by
  suffices general : ∀ last, text.foldl (fun _ c => holds c) last =
      (text.getLast?.map holds).getD last by
    rw [general]
    cases text.getLast? <;> rfl
  induction text with
  | nil => exact fun _ => rfl
  | cons c rest ih =>
    intro last
    rw [List.foldl_cons, ih, List.getLast?_cons]
    cases rest.getLast? <;> rfl

theorem foldl_squeezed (solid : IsSolid holds) (behindBlank last : Bool) (text : List Char)
    (before : behindBlank = true → last = false) :
    (squeezed behindBlank text).foldl (fun _ c => holds c) last =
      text.foldl (fun _ c => holds c) last := by
  induction text generalizing behindBlank last with
  | nil => rfl
  | cons c rest ih =>
    cases blank : isBlank c with
    | false =>
      rw [squeezed_solid blank, List.foldl_cons, List.foldl_cons]
      exact ih false (holds c) nofun
    | true =>
      have space : holds ' ' = false := solid ' ' (by decide)
      cases behindBlank with
      | true =>
        rw [squeezed_blank_on blank, before rfl, List.foldl_cons, solid c blank]
        exact ih true false fun _ => rfl
      | false =>
        rw [squeezed_blank blank, List.foldl_cons, List.foldl_cons, solid c blank, space]
        exact ih true false fun _ => rfl

end

theorem holdsBareGreater_squeezed (behindBlank : Bool) (previous other : Option Char)
    (text : List Char) (same : (previous != some '-') = (other != some '-'))
    (before : behindBlank = true → (previous != some '-') = true) :
    holdsBareGreater previous (squeezed behindBlank text) = holdsBareGreater other text := by
  induction text generalizing behindBlank previous other with
  | nil => rfl
  | cons c rest ih =>
    cases blank : isBlank c with
    | false =>
      have next : ((squeezed false rest).head? != some '=') = (rest.head? != some '=') := by
        have assign := respaces_squeezed.any_head? (.eq '=' (by decide)) rest
        cases front : (squeezed false rest).head? <;> cases front' : rest.head? <;>
          simp_all [bne]
      rw [squeezed_solid blank, holdsBareGreater, holdsBareGreater, same, next,
        ih false (some c) (some c) rfl nofun]
    | true =>
      have notMark : ∀ d ∈ ['>', '-'], c ≠ d := fun d member =>
        ne_of_isBlank blank (solid_of_all (by decide) d member)
      have passed : holdsBareGreater other (c :: rest) = holdsBareGreater (some c) rest := by
        rw [holdsBareGreater, beq_false_of_ne (notMark '>' (by simp))]
        simp
      have noMinus : (some c != some '-') = true := by simpa using notMark '-' (by simp)
      rw [passed]
      cases behindBlank with
      | true =>
        rw [squeezed_blank_on blank]
        exact ih true previous (some c) (by rw [before rfl, noMinus]) before
      | false =>
        rw [squeezed_blank blank, holdsBareGreater]
        simpa using ih true (some ' ') (some c) (by rw [noMinus]; rfl) fun _ => rfl

theorem contains_squeezed {mark : Char} (solid : isBlank mark = false) (behindBlank : Bool)
    (text : List Char) : (squeezed behindBlank text).contains mark = text.contains mark := by
  induction text generalizing behindBlank with
  | nil => rfl
  | cons c rest ih =>
    cases blank : isBlank c with
    | false => rw [squeezed_solid blank, List.contains_cons, List.contains_cons, ih]
    | true =>
      have unlike {d : Char} (blank : isBlank d = true) : (mark == d) = false :=
        beq_false_of_ne (ne_of_isBlank blank solid).symm
      rw [List.contains_cons, unlike blank, Bool.false_or]
      cases behindBlank with
      | true => rw [squeezed_blank_on blank, ih]
      | false => rw [squeezed_blank blank, List.contains_cons, unlike (by decide), Bool.false_or, ih]

namespace Text.Alike

variable {first second : String} (alike : Alike false first second)

include alike

theorem startsWith_eq {holds : Char → Bool} (solid : IsSolid holds) :
    startsWith holds first = startsWith holds second := by
  have same (text : String) := respaces_squeezed.any_head? solid text.toList
  rw [startsWith, startsWith, ← same, alike, same]

theorem endsWith_eq {holds : Char → Bool} (solid : IsSolid holds) :
    endsWith holds first = endsWith holds second := by
  have same (text : String) := foldl_squeezed solid false false text.toList fun _ => rfl
  rw [endsWith, endsWith, any_getLast?_eq, any_getLast?_eq, ← same, alike, same]

theorem isEmpty_eq : first.isEmpty = second.isEmpty := by
  have same (text : String) : text.isEmpty = true ↔ squeezed false text.toList = [] := by
    rw [String.isEmpty_iff, ← String.toList_eq_nil_iff]
    cases text.toList with
    | nil => simp [squeezed]
    | cons c rest => cases blank : isBlank c <;> simp [squeezed, blank]
  rw [Bool.eq_iff_iff, same, same, alike]

theorem hasBareGreater_eq : hasBareGreater first = hasBareGreater second := by
  have same (text : String) := holdsBareGreater_squeezed false none none text.toList rfl nofun
  rw [hasBareGreater, hasBareGreater, ← same, alike, same]

theorem hasAngle_eq : hasAngle first = hasAngle second := by
  have angle : isBlank '<' = false := by decide
  rw [hasAngle, hasAngle, alike.hasBareGreater_eq, ← contains_squeezed angle false, alike,
    contains_squeezed angle]

end Text.Alike

theorem Text.plain_append {first second : String} (plain : isPlain (first ++ second).toList = true) :
    isPlain first.toList = true ∧ isPlain second.toList = true :=
  isPlain_append (String.toList_append ▸ plain)

/-- The texts differ only in their blanks, at least if the first one is plain. -/
def Text.Respaced (behindBlank : Bool) (first second : String) : Prop :=
  isPlain first.toList = true → Alike behindBlank first second

namespace Text.Respaced

variable {behindBlank : Bool} {first second third fourth : String}

theorem refl (text : String) : Respaced behindBlank text text := fun _ => .refl text

theorem of_alike (alike : Alike behindBlank first second) : Respaced behindBlank first second :=
  fun _ => alike

theorem behind (same : Respaced false first second) : Respaced behindBlank first second :=
  fun plain => (same plain).behind _

/-- The second part may depend on the first one, as far as that is the same. -/
theorem andThen (front : Respaced false first second)
    (rest : Alike false first second → Respaced false third fourth) :
    Respaced false (first ++ third) (second ++ fourth) := by
  intro plain
  obtain ⟨before, behind⟩ := plain_append plain
  exact (front before).append (rest (front before) behind)

theorem append (front : Respaced behindBlank first second) (rest : Respaced false third fourth) :
    Respaced behindBlank (first ++ third) (second ++ fourth) := by
  intro plain
  obtain ⟨before, behind⟩ := plain_append plain
  exact (front before).append (rest behind)

/-- What follows a blank may start with more blanks. -/
theorem followed (front : Respaced behindBlank first second)
    (ended : endsBlank behindBlank first.toList = true) (rest : Respaced true third fourth) :
    Respaced behindBlank (first ++ third) (second ++ fourth) := by
  intro plain
  obtain ⟨before, behind⟩ := plain_append plain
  exact (front before).followed (ended ▸ rest behind)

end Text.Respaced

theorem Text.plain_of_bracketed {inside : Prop} [Decidable inside] {before text after : String}
    (plain : isPlain (if inside then before ++ text ++ after else text).toList = true) :
    isPlain text.toList = true := by
  split at plain
  · exact (plain_append (plain_append plain).1).2
  · exact plain

theorem Text.Alike.bracketed {inside : Prop} [Decidable inside] {text other : String}
    (alike : Alike false text other) (before after : String) :
    Alike false (if inside then before ++ text ++ after else text)
      (if inside then before ++ other ++ after else other) := by
  split
  · exact ((Alike.refl _).append alike).append (.refl _)
  · exact alike

/-- The surroundings differ at most in the choices about layout and in how deep they are. -/
structure Layout.Beside (here there : Layout) : Prop where
  typeNames : here.typeNames = there.typeNames
  greaterFollows : here.greaterFollows = there.greaterFollows

namespace Doc

/-- The text of the document differs only in its blanks, however it is laid out. -/
def Steady (behindBlank : Bool) (doc : Doc) : Prop :=
  ∀ here there : Layout, here.Beside there → Respaced behindBlank (doc here) (doc there)

namespace Steady

variable {behindBlank : Bool} {a b inner : Doc} {parts : List Doc}

theorem behind (steady : inner.Steady false) : inner.Steady behindBlank :=
  fun here there beside => (steady here there beside).behind

@[grind .]
theorem text (content : String) : (Doc.text content).Steady behindBlank := fun _ _ _ => .refl _

theorem empty : Doc.empty.Steady behindBlank := text ""

@[grind .]
theorem onlyIf (holds : Bool) (content : String) : (Doc.onlyIf holds content).Steady behindBlank :=
  text _

theorem trailing (comment : Option String) : (Doc.trailing comment).Steady behindBlank := text _

@[grind ←]
theorem append (front : a.Steady behindBlank) (rest : b.Steady false) :
    (a ++ b).Steady behindBlank :=
  fun here there beside => (front here there beside).append (rest here there beside)

@[grind ←]
theorem enclosed (steady : inner.Steady behindBlank) : inner.enclosed.Steady behindBlank :=
  fun _ _ beside => steady _ _ ⟨beside.typeNames, rfl⟩

theorem before (greater : Bool) (steady : inner.Steady behindBlank) :
    (inner.before greater).Steady behindBlank :=
  fun _ _ beside => steady _ _ ⟨beside.typeNames, rfl⟩

theorem deeper (steady : inner.Steady behindBlank) : inner.deeper.Steady behindBlank :=
  fun _ _ beside => steady _ _ ⟨beside.typeNames, beside.greaterFollows⟩

theorem shallower (steady : inner.Steady behindBlank) : inner.shallower.Steady behindBlank :=
  fun _ _ beside => steady _ _ ⟨beside.typeNames, beside.greaterFollows⟩

@[grind ←]
theorem parenthesized (steady : inner.Steady false) : inner.parenthesized.Steady false :=
  ((text "(").append steady).append (text ")")

theorem ifPresent {part : Option Doc} (each : ∀ inner ∈ part, inner.Steady false) :
    (Doc.ifPresent part).Steady false := by
  cases part with
  | none => exact empty
  | some inner => exact each inner rfl

theorem present {part : Option α} {f : α → Doc} (each : ∀ inner ∈ part, (f inner).Steady false) :
    (Doc.ifPresent (part.map f)).Steady false :=
  ifPresent (Option.forall_mem_map.mpr each)

theorem join {texts others : List String} (same : List.Forall₂ (Respaced false) texts others) :
    Respaced false (String.join texts) (String.join others) := by
  induction same with
  | nil => exact .refl _
  | cons first _ ih =>
    rw [String.join_cons, String.join_cons]
    exact first.append ih

theorem intercalate (separator : String) {texts others : List String}
    (same : List.Forall₂ (Respaced false) texts others) :
    Respaced false (separator.intercalate texts) (separator.intercalate others) := by
  induction same with
  | nil => exact .refl _
  | cons first rest ih =>
    cases rest with
    | nil => simpa using first
    | cons second rest =>
      rw [String.intercalate_cons_cons, String.intercalate_cons_cons]
      exact (first.append (.refl _)).append ih

theorem map (each : ∀ part ∈ parts, part.Steady false) {here there : Layout}
    (beside : here.Beside there) :
    List.Forall₂ (Respaced false) (parts.map (· here)) (parts.map (· there)) := by
  induction parts with
  | nil => exact .nil
  | cons part parts ih =>
    obtain ⟨first, rest⟩ := List.forall_mem_cons.mp each
    exact .cons (first here there beside) (ih rest)

theorem concat (each : ∀ part ∈ parts, part.Steady false) : (Doc.concat parts).Steady false :=
  fun _ _ beside => join (map each beside)

theorem separated {separator : String} (each : ∀ part ∈ parts, part.Steady false) :
    (Doc.separated separator parts).Steady false :=
  fun _ _ beside => intercalate separator (map each beside)

end Steady

/-- The document is steady, and a blank stands at its end, or before it if it is empty. -/
structure Spaced (behindBlank : Bool) (doc : Doc) : Prop where
  steady : doc.Steady behindBlank
  ended : ∀ layout, endsBlank behindBlank (doc layout).toList = true

namespace Spaced

variable {behindBlank : Bool} {a b lines : Doc}

theorem append (front : a.Spaced behindBlank) (rest : b.Spaced true) : (a ++ b).Spaced behindBlank where
  steady here there beside :=
    (front.steady here there beside).followed (front.ended here) (rest.steady here there beside)
  ended layout := by
    have both := front.ended layout
    rw [Doc.append_apply, String.toList_append, endsBlank, List.foldl_append, ← endsBlank,
      ← endsBlank, both]
    exact rest.ended layout

theorem followed (front : a.Spaced behindBlank) (rest : b.Steady true) : (a ++ b).Steady behindBlank :=
  fun here there beside =>
    (front.steady here there beside).followed (front.ended here) (rest here there beside)

theorem text {content : String} (ended : endsBlank behindBlank content.toList = true) :
    (Doc.text content).Spaced behindBlank := ⟨.text content, fun _ => ended⟩

theorem empty : Doc.empty.Spaced true := text rfl

/-- An empty line or nothing. -/
theorem gap (apart : Bool) : (Doc.text (if apart then "\n" else "")).Spaced true := by
  cases apart <;> exact text (by decide)

/-- A text that ends its line. -/
theorem line (steady : a.Steady behindBlank) : (a ++ Doc.text "\n").Spaced behindBlank where
  steady := steady.append (.text _)
  ended layout := by
    have feed : "\n".toList = ['\n'] := by decide
    rw [Doc.append_apply, String.toList_append, endsBlank, List.foldl_append, Doc.text_apply, feed]
    exact (by decide : isBlank '\n' = true)

theorem deeper (spaced : lines.Spaced behindBlank) : lines.deeper.Spaced behindBlank :=
  ⟨spaced.steady.deeper, fun _ => spaced.ended _⟩

theorem shallower (spaced : lines.Spaced behindBlank) : lines.shallower.Spaced behindBlank :=
  ⟨spaced.steady.shallower, fun _ => spaced.ended _⟩

end Spaced

theorem squeezed_replicate (count : Nat) : squeezed true (List.replicate count ' ') = [] := by
  induction count with
  | zero => rfl
  | succ count ih => rw [List.replicate_succ, squeezed_blank_on (by decide), ih]

theorem endsBlank_replicate (count : Nat) : endsBlank true (List.replicate count ' ') = true := by
  induction count with
  | zero => rfl
  | succ count ih => rwa [List.replicate_succ, endsBlank, List.foldl_cons]

theorem Spaced.margin : Doc.margin.Spaced true where
  steady here there _ _ := by
    rw [Alike, toList_margin, toList_margin, squeezed_replicate, squeezed_replicate]
  ended layout := by rw [toList_margin, endsBlank_replicate]

theorem Spaced.concat {parts : List Doc} (each : ∀ part ∈ parts, part.Spaced true) :
    (Doc.concat parts).Spaced true := by
  induction parts with
  | nil => exact .empty
  | cons part parts ih =>
    obtain ⟨first, rest⟩ := List.forall_mem_cons.mp each
    have whole : Doc.concat (part :: parts) = part ++ Doc.concat parts :=
      funext fun layout => String.join_cons
    rw [whole]
    exact first.append (ih rest)

theorem Spaced.commentLines (comments : List String) : (Doc.commentLines comments).Spaced true := by
  refine .concat fun part member => ?_
  obtain ⟨comment, _, rfl⟩ := List.mem_map.mp member
  exact .line (Spaced.margin.steady.append (.text comment))

/-- A line break and the margin behind it, or a single blank. -/
theorem Spaced.beforeBrace : Doc.beforeBrace.Spaced false := by
  have broken : (Doc.text "\n" ++ Doc.margin).Spaced false := (Spaced.text rfl).append .margin
  have alike (layout : Layout) : Alike false " " ("\n" ++ Doc.margin layout) := by
    have blank : " ".toList = [' '] := by decide
    have feed : "\n".toList = ['\n'] := by decide
    rw [Alike, String.toList_append, toList_margin, blank, feed, List.singleton_append,
      squeezed_blank (by decide), squeezed_blank (by decide), squeezed_replicate]
    rfl
  have either (layout : Layout) : Doc.beforeBrace layout = " " ∨
      Doc.beforeBrace layout = "\n" ++ Doc.margin layout := by
    unfold Doc.beforeBrace
    cases layout.options.braceStyle <;> simp
  refine ⟨fun here there beside plain => ?_, fun layout => ?_⟩
  · rcases either here with left | left <;> rcases either there with right | right <;> rw [left, right]
    · exact .refl _
    · exact alike there
    · exact (alike here).symm
    · exact broken.steady here there beside (by rw [left] at plain; exact plain)
  · rcases either layout with same | same <;> rw [same]
    · decide
    · exact broken.ended layout

theorem Steady.beforeBrace : Doc.beforeBrace.Steady false := Spaced.beforeBrace.steady

theorem Steady.braced {lines : Doc} (spaced : lines.Spaced true) : (Doc.braced lines).Steady false := by
  have front : (Doc.text "\x7b\n" ++ lines ++ Doc.margin).Spaced false :=
    ((Spaced.text (by decide)).append spaced).append .margin
  exact front.steady.append (.text _)

end Doc

theorem isSolid_isWordChar : IsSolid isWordChar := IsSolid.isAlphanumeric.or (.eq _ (by decide))

/-- A declarator both parts of which are steady. -/
structure DeclaratorDoc.Steady (shape : DeclaratorDoc) : Prop where
  pointers : shape.pointers.Steady false
  core : shape.core.Steady false

/-- A type both parts of which are steady. -/
structure TypeDoc.Steady (target : TypeDoc) : Prop where
  spec : target.spec.Steady false
  shape : target.shape.Steady

/-- What is drawn of a node is steady, whatever it depends on. -/
def Drawing.Steady : (c : Category) → Drawing c → Prop
  | .declarator, shape => DeclaratorDoc.Steady shape
  | .typeId, target => TypeDoc.Steady target
  | .parameter, drawn | .initializer, drawn => ∀ place, (drawn place).Steady false
  | .unit, doc => Doc.Steady true doc
  | .initDeclarator, drawn => ∀ specs : Option Doc, (∀ doc ∈ specs, doc.Steady false) →
    (drawn specs).Steady false
  | .segment, doc | .name, doc | .templateArgument, doc | .typeSpecifier, doc
  | .pointerOperator, doc | .declaratorCore, doc | .exceptionSpec, doc | .signature, doc
  | .parameterList, doc | .declaratorSuffix, doc | .specifiers, doc | .memberInit, doc
  | .functionBody, doc | .base, doc | .classSpecifier, doc | .enumerator, doc | .enumSpecifier, doc
  | .templateParameter, doc | .declarationForm, doc | .declaration, doc | .block, doc
  | .condition, doc | .handler, doc | .statementForm, doc | .statement, doc | .operand, doc
  | .capture, doc | .expression, doc => Doc.Steady false doc

def Drawn.Steady {c : Category} (drawn : Drawn c) : Prop := Drawing.Steady c drawn.drawing

namespace DeclaratorDoc

variable {shape : DeclaratorDoc} {specs : Doc}

theorem plain_of_attached {pointers : String} (plain : isPlain (attached pointers).toList = true) :
    isPlain pointers.toList = true := by
  unfold attached at plain
  split at plain
  · exact (plain_append plain).2
  · exact plain

theorem attached_alike {pointers others : String} (alike : Alike false pointers others) :
    Alike false (attached pointers) (attached others) := by
  have solid : IsSolid fun c => isWordChar c || c == ':' := isSolid_isWordChar.or (.eq _ (by decide))
  unfold attached
  rw [alike.startsWith_eq solid]
  split
  · exact (Alike.refl _).append alike
  · exact alike

theorem Steady.afterType (steady : shape.Steady) : shape.afterType.Steady false := by
  intro here there beside plain
  unfold DeclaratorDoc.afterType at plain ⊢
  dsimp only at plain ⊢
  obtain ⟨front, behind⟩ := plain_append plain
  have pointers := steady.pointers here there beside (plain_of_attached (plain_append front).1)
  have core := steady.core here there beside behind
  rw [pointers.endsWith_eq isSolid_isWordChar, core.isEmpty_eq,
    core.startsWith_eq (.eq '.' (by decide))]
  exact ((attached_alike pointers).append (.refl _)).append core

theorem Steady.standalone (steady : shape.Steady) : shape.standalone.Steady false := by
  intro here there beside plain
  unfold DeclaratorDoc.standalone at plain ⊢
  dsimp only at plain ⊢
  obtain ⟨front, behind⟩ := plain_append plain
  have pointers := steady.pointers here there beside (plain_append front).1
  have core := steady.core here there beside behind
  rw [pointers.endsWith_eq isSolid_isWordChar, core.startsWith_eq isSolid_isWordChar]
  exact (pointers.append (.refl _)).append core

theorem Steady.afterSpecifiers (steady : shape.Steady) (before : specs.Steady false) :
    (shape.afterSpecifiers specs).Steady false := by
  intro here there beside plain
  unfold DeclaratorDoc.afterSpecifiers at plain ⊢
  dsimp only at plain ⊢
  have inside : isPlain (specs here).toList = true := by
    split at plain
    · rename_i none
      rw [String.isEmpty_iff.mp none]
      rfl
    · exact (plain_append plain).1
  have alike := before here there beside inside
  rw [alike.isEmpty_eq] at plain ⊢
  split at plain
  · rename_i none
    rw [if_pos none, if_pos none]
    exact steady.standalone here there beside plain
  · rename_i some
    rw [if_neg some, if_neg some]
    exact alike.append (steady.afterType here there beside (plain_append plain).2)

end DeclaratorDoc

@[grind ←]
theorem TypeDoc.Steady.doc {target : TypeDoc} (steady : target.Steady) : target.doc.Steady false :=
  steady.spec.append steady.shape.afterType

namespace Drawn

variable {inner : Drawn .expression} {items : List (Drawn .expression)} {here there : Layout}

@[grind ←]
theorem operand_steady (level : Nat) (steady : inner.Steady) : (inner.operand level).Steady false := by
  unfold operand
  split
  · exact .parenthesized (.enclosed steady)
  · exact steady

@[grind ←]
theorem anyExpression_steady (steady : inner.Steady) : inner.anyExpression.Steady false :=
  operand_steady _ steady

/-- The texts of a list are alike one by one, and both hold a bare `>` behind an item or neither. -/
theorem listTexts_alike (each : ∀ item ∈ items, item.Steady) (beside : here.Beside there)
    (plain : ∀ text ∈ (listTexts here items).1, isPlain text.toList = true) :
    (listTexts here items).2 = (listTexts there items).2 ∧
      List.Forall₂ (Alike false) (listTexts here items).1 (listTexts there items).1 := by
  induction items with
  | nil => exact ⟨rfl, .nil⟩
  | cons item rest ih =>
    obtain ⟨first, others⟩ := List.forall_mem_cons.mp each
    obtain ⟨plainFirst, plainRest⟩ := List.forall_mem_cons.mp plain
    obtain ⟨greater, alikes⟩ := ih others plainRest
    have alike := (operand_steady Precedence.assignment first).before (listTexts here rest).2 here there
      beside plainFirst
    unfold listTexts
    dsimp only
    rw [← greater, alike.hasBareGreater_eq]
    exact ⟨rfl, .cons alike alikes⟩

theorem plain_of_mem {separator text : String} {texts : List String}
    (plain : isPlain (separator.intercalate texts).toList = true) (member : text ∈ texts) :
    isPlain text.toList = true := by
  induction texts with
  | nil => cases member
  | cons first rest ih =>
    cases rest with
    | nil =>
      obtain rfl := List.mem_singleton.mp member
      simpa using plain
    | cons second rest =>
      rw [String.intercalate_cons_cons] at plain
      obtain ⟨front, behind⟩ := plain_append plain
      rcases List.mem_cons.mp member with rfl | later
      · exact (plain_append front).1
      · exact ih behind later

theorem list_steady (each : ∀ item ∈ items, item.Steady) : (list items).Steady false := by
  intro here there beside plain
  obtain ⟨_, alikes⟩ := listTexts_alike each beside fun _ => plain_of_mem plain
  exact Doc.Steady.intercalate ", " (alikes.imp fun _ _ => Respaced.of_alike) plain

@[grind ←]
theorem parenthesizedList_steady (each : ∀ item ∈ items, item.Steady) :
    (parenthesizedList items).Steady false :=
  (list_steady each).parenthesized

@[grind ←]
theorem bracedList_steady (each : ∀ item ∈ items, item.Steady) : (bracedList items).Steady false :=
  ((Doc.Steady.text _).append (list_steady each)).append (.text _)

end Drawn

end CppSyntax
