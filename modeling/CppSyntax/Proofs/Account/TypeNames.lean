import CppSyntax.Proofs.Account.Reading
import CppSyntax.Proofs.Session.Resumption

/-!
The type names of a unit are known behind it. The readers of places know every name that a tree they
read introduces, and a session, which takes names back when a trial fails, knows the same names.
-/

namespace CppSyntax

open CppSyntax.Parser Grammar

/-- A reader of a unit knows all names that the unit introduces, and all that it knew before. -/
theorem Reader.translationUnit_known {start reached : State} {unit : TranslationUnit}
    (read : Reader.translationUnit start = (.ok unit, reached)) :
    start.typeNames ++ unit.typeNames ⊆ reached.typeNames := by
  have accounts : Accounts start start.typeNames
      (Grammar.translationUnit (.ofFuel (Reader.fuel start)) : Parser _) := inferInstance
  have account := accounts.accounted .top start .refl (List.Subset.refl _)
  unfold Reader.translationUnit Reader.run at read
  cases reply : (Grammar.translationUnit (.ofFuel (Reader.fuel start)) : Parser _) .top start with
  | done value place =>
    rw [reply] at read account
    cases read
    have names := account.2
    rwa [namesIn_tree] at names
  | failed | exhausted =>
    rw [reply] at read
    cases read

namespace Session

/-- Names stay known as long as a session goes on. -/
theorem Extends.known {before after : Session} (extended : before.Extends after) :
    before.known ⊆ after.known := by
  obtain ⟨idents, _, known, _⟩ := extended.names
  exact known ▸ List.subset_append_right ..

theorem Idle.takeAll_known {session : Session} (idle : session.Idle) (steps : List Step) :
    session.known ⊆ (session.takeAll steps).known := by
  induction steps generalizing session with
  | nil => exact List.Subset.refl _
  | cons step steps ih =>
    obtain ⟨_, _, extended⟩ := idle.take_meets step (Likeness.exact_meets_state idle.stands)
    exact List.Subset.trans extended.known (ih (idle.take step).1)

/-- Every name that counts as a type in a unit is known to the session that has read it, whatever the
session has read before and however many trials it has taken back. -/
theorem take_typeNames {source : String} {known : List String} {session after : Session}
    (opened : ofSource source known = .ok session) (steps : List Step) {unit : TranslationUnit}
    (read : (session.takeAll steps).take .translationUnit = (.ok unit, after)) :
    ∀ ident ∈ unit.knownTypes, ident ∈ after.known := by
  have idle := idle_of_source opened
  have library : libraryTypeNames ⊆ session.known := by
    unfold ofSource at opened
    split at opened
    · cases opened
      exact List.subset_append_left ..
    · cases opened
  have earlier := List.Subset.trans library (idle.takeAll_known steps)
  obtain ⟨behind, _⟩ := idle.takeAll steps
  -- The session answers as a reader at its place, and both know the same names afterwards.
  obtain ⟨same, again, extended⟩ :=
    behind.take_meets .translationUnit (Likeness.exact_meets_state behind.stands)
  rw [read] at same again extended
  have reading : Reader.translationUnit (session.takeAll steps).state =
      (.ok unit, (Reader.translationUnit (session.takeAll steps).state).2) :=
    Prod.ext same.symm rfl
  obtain ⟨_, introduced⟩ := List.append_subset.mp (Reader.translationUnit_known reading)
  intro ident member
  rcases List.mem_append.mp member with shared | own
  · exact extended.known (earlier shared)
  · exact (again.known ident).mpr (introduced own)

/-- The class is named within a list of template arguments that is read, taken back and read again,
behind a statement that the session has been asked for before. -/
theorem take_typeNames_again :
    let source := "int x; void f() { a < sizeof(struct S) > (b), c; }"
    ∃ session unit after, ofSource source ["T"] = .ok session ∧
      (session.takeAll [.statement]).take .translationUnit = (.ok unit, after) ∧
      ∀ ident ∈ unit.knownTypes, ident ∈ after.known := by
  intro source
  have read : ((ofSource source ["T"]).toOption.bind fun session =>
      ((session.takeAll [.statement]).take .translationUnit).1.toOption).isSome = true := by
    decide +kernel
  obtain ⟨unit, answered⟩ := Option.isSome_iff_exists.mp read
  obtain ⟨session, found, reading⟩ := Option.bind_eq_some_iff.mp answered
  have opened := toOption_eq_some.mp found
  have taken : (session.takeAll [.statement]).take .translationUnit = (.ok unit, _) :=
    Prod.ext (toOption_eq_some.mp reading) rfl
  exact ⟨session, unit, _, opened, taken, take_typeNames opened [.statement] taken⟩

end Session

end CppSyntax
