import CppSyntax.Proofs.Expression.Nameless
import CppSyntax.Proofs.Expression.OverNames
import CppSyntax.Proofs.RoundTrip.Frame
import CppSyntax.Proofs.Statement.Forms
import CppSyntax.Roundtrip

/-!
Expressions keep their structure when a function that returns them is rendered and read again: those
without names, and those over names, in which no `<` is read as the start of template arguments and no
parentheses as a cast.
-/

namespace CppSyntax

open CppSyntax.Parser

namespace Tree

variable {nest : Nat} {value : Expr}

/-- A function that returns an expression keeps its structure, if the text of the expression is read back
before a semicolon. What is nested too deep is refused. -/
theorem StandsLast.survives_or_fails (last : StandsLast (2 * value.height + 1) value)
    (options : RenderOptions) :
    survives options (.returning value) = true ∨
      (100 < value.height ∧ ∃ error, parse (render options (.returning value)) = .error error) := by
  have bare : (Tree.statement .erased (.returnStatement (.present value))).IsBare := ⟨rfl, rfl, rfl⟩
  rcases last.returned.roundtrip bare options with ⟨again, read, same⟩ | ⟨deep, failed⟩
  · have read' : parse (render options (.returning value)) = .ok again := read
    refine .inl ?_
    rw [survives, read']
    refine Tree.sameStructure_iff.mpr ?_
    rw [same]
    rfl
  · simp only [nestingLimit] at deep
    exact .inr ⟨by omega, failed⟩

theorem Written.standsLast (written : Written nest value) : StandsLast (nest + 1) value := by
  intro level layout rest joint behind le more spelled
  obtain ⟨tight, low, text⟩ := written.operand level (Nat.le_trans le (by decide)) layout
  obtain ⟨glyphs, whole, reads, _⟩ := text.reads _ _ (.closing spelled (by decide) rfl)
  exact ⟨tight, glyphs, low, whole, reads⟩

theorem LaidOut.standsLast (laid : LaidOut nest value) : StandsLast (nest + 1) value := by
  intro level layout rest joint behind le more spelled
  have ordinary : Ordinary (⟨.punctuator .semicolon, joint⟩ :: behind) := .last rfl
  obtain ⟨tight, low, text⟩ := laid.operand level le layout
  obtain ⟨glyphs, before⟩ := text.before _ _
    (.closing spelled (by decide) (by simp) ordinary (greaterAhead_stop rfl))
  exact ⟨tight, glyphs, low, before.spelled, before.reads⟩

/-- A function that returns an expression without names is read back with the same structure. There
may be an error instead, but only if the expression is higher than 100. -/
theorem Nameless.survives_returned (nameless : value.Nameless) (options : RenderOptions) :
    survives options (.returning value) = true ∨
      (100 < value.height ∧ ∃ error, parse (render options (.returning value)) = .error error) :=
  nameless.written.standsLast.survives_or_fails options

end Tree

/-- A sum as a factor keeps its parentheses, and two minus signs stay apart. -/
theorem survives_returned_product : survives .standard (.returning (.binary .mul
    (.binary .add (.literal ⟨.integer, "1"⟩) .this)
    (.unary .minus (.unary .minus (.literal ⟨.integer, "2"⟩))))) = true := by
  have sum : (Tree.binary .add (.literal ⟨.integer, "1"⟩) .this).Nameless :=
    .binary (by decide) (.integer (by decide)) .this
  have negated : (Tree.unary .minus (.unary .minus (.literal ⟨.integer, "2"⟩))).Nameless :=
    .unary .minus (.unary .minus (.integer (by decide)))
  exact (Tree.Nameless.survives_returned (.binary (by decide) sum negated) .standard).resolve_right
    fun failed => absurd failed.1 (by decide)

/-- A function that returns an expression over names is read back with the same structure. There may be
an error instead, but only if the expression is higher than 100. -/
theorem Tree.OverNames.returned_survives {value : Expr} (names : value.OverNames)
    (options : RenderOptions) :
    survives options (.returning value) = true ∨
      (100 < value.height ∧ ∃ error, parse (render options (.returning value)) = .error error) :=
  names.laidOut.standsLast.survives_or_fails options

/-- Without parentheses around `a`, the text `f(a < b, c > (d, this))` would be a call of the function
template `a<b, c>`. -/
theorem returned_survives_compared_arguments : survives .standard (.returning
    (.call (.nameExpression (.simpleName "f"))
      (.ofList [.binary .less (.nameExpression (.simpleName "a")) (.nameExpression (.simpleName "b")),
        .binary .greater (.nameExpression (.simpleName "c"))
          (.binary .comma (.nameExpression (.simpleName "d")) .this)]))) = true := by
  have this : ReadsAs.wordExpression? .kwThis = some .this := rfl
  have less : (Tree.binary .less (.nameExpression (.simpleName "a"))
      (.nameExpression (.simpleName "b"))).OverNames :=
    .binary (by decide) (.name (by decide)) (.name (by decide))
  have greater : (Tree.binary .greater (.nameExpression (.simpleName "c"))
      (.binary .comma (.nameExpression (.simpleName "d")) .this)).OverNames :=
    .binary (by decide) (.name (by decide)) (.binary (by decide) (.name (by decide)) (.word this))
  have call : (Tree.call (.nameExpression (.simpleName "f")) (.ofList [_, _])).OverNames :=
    .call (.name (by decide)) (by simpa using ⟨less, greater⟩)
  exact (call.returned_survives .standard).resolve_right fun failed => absurd failed.1 (by decide)

end CppSyntax
