import CppSyntax.Command.Run
import CppSyntax.Proofs.Command.Arguments
import CppSyntax.Proofs.Command.Files
import CppSyntax.Proofs.Indentation.Tree

/-!
A run of the program is atomic, on every system of files that its file access keeps to. It changes at
most the place of its output, and that only if the file could be read and parsed and a file can be created;
the output then holds the whole reconstruction, also where the reconstruction is found to differ from
the file. Only a reconstruction that is too long to be built breaks the run off behind a file that has
been created, which stays empty.
-/

namespace CppSyntax

/-- The text that is read by a path, if it is UTF-8. -/
def FileSystem.text? {m : Type → Type} [Monad m] (system : FileSystem m) (files : FileAccess m)
    (state : system.State) (path : String) : Option String :=
  (system.run (files.read path) state).1.bind String.fromUTF8?

namespace Command

variable {m : Type → Type} [Monad m] {system : FileSystem m} {files : FileAccess m}
  {state after : system.State} {invocation : Invocation} {outcome : Outcome}

/-- What the file is read as. -/
def parsed? (system : FileSystem m) (files : FileAccess m) (state : system.State) (path : String) :
    Option (Except SyntaxError TranslationUnit) :=
  (system.text? files state path).map parse

/-- The output that is created once the file has been read. -/
def created? (system : FileSystem m) (files : FileAccess m) (state : system.State) (path : String) :
    Option files.Handle :=
  (system.run (files.create (outputPath path)) (system.run (files.read path) state).2).1

/-- Whether the reconstruction of a unit is read as a unit of the same structure. -/
theorem survives_iff {options : RenderOptions} {unit : TranslationUnit} :
    survives options unit = true ↔
      ∃ again, parse (render options unit) = .ok again ∧ unit.sameStructure again = true := by
  unfold survives
  cases parse (render options unit) <;> simp

/-- What a run makes of a system for a file that is to be rewritten. -/
structure IsAtomic (system : FileSystem m) (files : FileAccess m) (state : system.State)
    (invocation : Invocation) (outcome : Outcome) (after : system.State) : Prop where
  elsewhere : ∀ place, system.place? state (outputPath invocation.path) ≠ some place →
    system.entry? after place = system.entry? state place
  source : ∀ text, system.text? files state invocation.path = some text →
    ∃ place, system.place? state invocation.path = some place ∧
      system.entry? state place = some (.file text.toUTF8)
  unreadable : parsed? system files state invocation.path = none →
    system.Unchanged state after ∧ outcome.exit.number = 3
  unparsed : ∀ error, parsed? system files state invocation.path = some (.error error) →
    system.Unchanged state after ∧ outcome.exit.number = 2
  uncreatable : ∀ unit, parsed? system files state invocation.path = some (.ok unit) →
    created? system files state invocation.path = none →
      system.Unchanged state after ∧ outcome.exit.number = 3
  written : ∀ unit handle, parsed? system files state invocation.path = some (.ok unit) →
    created? system files state invocation.path = some handle →
      (render invocation.options unit).utf8ByteSize ≤ textCapacity →
        (∃ place, system.place? state (outputPath invocation.path) = some place ∧
          system.entry? after place = some (.file (render invocation.options unit).toUTF8)) ∧
        (outcome.exit.number = 0 ∨ outcome.exit.number = 4) ∧
        (outcome.exit.number = 0 ↔ (invocation.verify = true →
          ∃ again, parse (render invocation.options unit) = .ok again ∧
            unit.sameStructure again = true))
  overlong : ∀ unit handle, parsed? system files state invocation.path = some (.ok unit) →
    created? system files state invocation.path = some handle →
      textCapacity < (render invocation.options unit).utf8ByteSize →
        (∃ place, system.place? state (outputPath invocation.path) = some place ∧
          system.entry? after place = some (.file .empty)) ∧
        outcome.exit.number = 101

/-- How a run ends that has written its output. -/
def writtenOutcome (invocation : Invocation) (unit : TranslationUnit) : Outcome :=
  if invocation.verify && !survives invocation.options unit then
    ⟨.mismatch, "Verification failed: " ++ outputPath invocation.path ++ "\n"⟩
  else ⟨.success, ""⟩

theorem unitOfContent_eq {path : String} : unitOfContent path (system.run (files.read path) state).1 =
    match parsed? system files state path with
    | none => .error (.cannotOpen path)
    | some (.error error) => .error (.cannotParse path error)
    | some (.ok unit) => .ok unit := by
  unfold unitOfContent parsed? FileSystem.text?
  cases (system.run (files.read path) state).1.bind String.fromUTF8? with
  | none => rfl
  | some source =>
    show (parse source).mapError _ = _
    cases parsed : parse source <;> simp only [parsed, Option.map_some] <;> rfl

/-- The text that is read is the content of the file. -/
theorem source_of_text? (lawful : files.KeepsTo system) {path text : String}
    (read : system.text? files state path = some text) :
    ∃ place, system.place? state path = some place ∧
      system.entry? state place = some (.file text.toUTF8) := by
  obtain ⟨content, found, decoded⟩ := Option.bind_eq_some_iff.mp read
  obtain ⟨place, leads, holds⟩ := lawful.read_content found
  refine ⟨place, leads, holds.trans ?_⟩
  unfold String.fromUTF8? at decoded
  split at decoded
  · cases decoded
    rfl
  · cases decoded

theorem rewrite_run : system.run (rewrite files invocation) state =
    let read := (system.run (files.read invocation.path) state).2
    match parsed? system files state invocation.path with
    | none => ((ReadError.cannotOpen invocation.path).outcome, read)
    | some (.error error) => ((ReadError.cannotParse invocation.path error).outcome, read)
    | some (.ok unit) => system.run (writeUnit files invocation unit) read := by
  unfold rewrite readUnit
  rw [system.run_bind, system.run_bind, system.run_pure, unitOfContent_eq]
  cases parsed? system files state invocation.path with
  | none => exact system.run_pure ..
  | some result =>
    cases result with
    | error error => exact system.run_pure ..
    | ok unit => rfl

theorem render?_eq {options : RenderOptions} {unit : TranslationUnit} : render? options unit =
    if textCapacity < (render options unit).utf8ByteSize then none
    else some (render options unit) := by
  unfold render?
  simp only [overflows_iff]

/-- Nothing is written if no output can be created. -/
theorem writeUnit_uncreated {unit : TranslationUnit} {start : system.State}
    (creating : system.run (files.create (outputPath invocation.path)) start = (none, after)) :
    system.run (writeUnit files invocation unit) start =
      ((ReadError.cannotOpen (outputPath invocation.path)).outcome, after) := by
  unfold writeUnit
  rw [system.run_bind, creating]
  exact system.run_pure ..

/-- An output that has been created stays empty if the text is too long. -/
theorem writeUnit_overlong {unit : TranslationUnit} {start created : system.State}
    {handle : files.Handle}
    (creating : system.run (files.create (outputPath invocation.path)) start =
      (some handle, created))
    (long : textCapacity < (render invocation.options unit).utf8ByteSize) :
    system.run (writeUnit files invocation unit) start = (⟨.panicked, ""⟩, created) := by
  unfold writeUnit
  rw [system.run_bind, creating]
  dsimp only
  rw [render?_eq, if_pos long]
  exact system.run_pure ..

/-- Otherwise it is written. -/
theorem writeUnit_written (lawful : files.KeepsTo system) {unit : TranslationUnit}
    {start created : system.State} {handle : files.Handle} {place : system.Place}
    (creating : system.run (files.create (outputPath invocation.path)) start =
      (some handle, created))
    (leads : system.place? start (outputPath invocation.path) = some place)
    (fits : ¬textCapacity < (render invocation.options unit).utf8ByteSize) :
    ∃ after, system.run (writeUnit files invocation unit) start =
        (writtenOutcome invocation unit, after) ∧
      system.Holds created after place (render invocation.options unit).toUTF8 := by
  obtain ⟨after, wrote, fills⟩ :=
    lawful.write_fills (render invocation.options unit).toUTF8 creating leads
  refine ⟨after, ?_, fills⟩
  unfold writeUnit
  rw [system.run_bind, creating]
  dsimp only
  rw [render?_eq, if_neg fits]
  dsimp only
  rw [system.run_bind, wrote, if_pos rfl, writtenOutcome]
  cases invocation.verify && !survives invocation.options unit <;> exact system.run_pure ..

theorem writtenOutcome_number {unit : TranslationUnit} :
    ((writtenOutcome invocation unit).exit.number = 0 ∨
      (writtenOutcome invocation unit).exit.number = 4) ∧
    ((writtenOutcome invocation unit).exit.number = 0 ↔ (invocation.verify = true →
      ∃ again, parse (render invocation.options unit) = .ok again ∧
        unit.sameStructure again = true)) := by
  rw [← survives_iff, writtenOutcome]
  cases invocation.verify <;> cases survives invocation.options unit <;> simp [ExitCode.number]

theorem rewrite_isAtomic (lawful : files.KeepsTo system)
    (ran : system.run (rewrite files invocation) state = (outcome, after)) :
    IsAtomic system files state invocation outcome after := by
  have unread := lawful.read_unchanged invocation.path state
  have source := fun text => @source_of_text? _ _ _ _ state lawful invocation.path text
  rw [rewrite_run] at ran
  dsimp only at ran
  cases read : parsed? system files state invocation.path with
  | none =>
    rw [read] at ran
    cases ran
    exact ⟨fun place _ => unread.entry? place, source, fun _ => ⟨unread, rfl⟩, by simp [read],
      by simp [read], by simp [read], by simp [read]⟩
  | some result =>
    cases result with
    | error error =>
      rw [read] at ran
      cases ran
      exact ⟨fun place _ => unread.entry? place, source, by simp [read], fun _ _ => ⟨unread, rfl⟩,
        by simp [read], by simp [read], by simp [read]⟩
    | ok unit =>
      rw [read] at ran
      dsimp only at ran
      cases creating : system.run (files.create (outputPath invocation.path))
        (system.run (files.read invocation.path) state).2 with
      | mk handle created =>
        have found : created? system files state invocation.path = handle :=
          congrArg Prod.fst creating
        cases handle with
        | none =>
          rw [writeUnit_uncreated creating] at ran
          cases ran
          have unchanged := unread.trans (lawful.create_fails creating)
          exact ⟨fun place _ => unchanged.entry? place, source, by simp [read], by simp [read],
            fun _ _ _ => ⟨unchanged, rfl⟩, by simp [found], by simp [found]⟩
        | some handle =>
          obtain ⟨place, leads, empties⟩ := lawful.create_empties creating
          have place? := (unread.place? _).symm.trans leads
          by_cases long : textCapacity < (render invocation.options unit).utf8ByteSize
          · cases (writeUnit_overlong creating long).symm.trans ran
            refine ⟨unread.elsewhere leads empties, source, by simp [read], by simp [read],
              by simp [found], fun other _ parsed _ fits => ?_,
              fun _ _ _ _ _ => ⟨⟨place, place?, empties.entry⟩, rfl⟩⟩
            cases read.symm.trans parsed
            exact absurd long (Nat.not_lt.mpr fits)
          · obtain ⟨_, wrote, fills⟩ := writeUnit_written lawful creating leads long
            cases wrote.symm.trans ran
            refine ⟨unread.elsewhere leads (empties.trans fills), source, by simp [read],
              by simp [read], by simp [found], fun other _ parsed _ _ => ?_,
              fun other _ parsed _ overlong => ?_⟩
            · cases read.symm.trans parsed
              exact ⟨⟨place, place?, fills.entry⟩, writtenOutcome_number⟩
            · cases read.symm.trans parsed
              exact absurd overlong long

/-- A run leaves all but the place of its output as it was, whatever the system of files. Nothing changes
when the version or help is asked for, when the arguments cannot be used, when the file cannot be read
as text or not be parsed, and when no file can be created for the output. In all other cases the output
holds the reconstruction, and only a check that was asked for can fail behind it, unless the
reconstruction is too long: then the output is empty and the run broken off. -/
theorem run_atomic (lawful : files.KeepsTo system) {parser : ArgumentParser}
    (documented : parser.Documented) {arguments : List String}
    (ran : system.run (runWith parser files arguments) state = (outcome, after)) :
    (∀ invocation, AskToRewrite arguments invocation →
      IsAtomic system files state invocation outcome after) ∧
    (AskFor .version arguments ∨ AskFor .help arguments →
      system.Unchanged state after ∧ outcome.exit.number = 0) ∧
    ((∀ invocation, ¬AskToRewrite arguments invocation) → ¬AskFor .version arguments →
      ¬AskFor .help arguments → system.Unchanged state after ∧ outcome.exit.number = 1) := by
  rw [← documented.version, ← documented.help]
  simp only [← documented.rewrites]
  unfold runWith at ran
  cases answered : parser arguments with
  | ok invocation =>
    rw [answered] at ran
    refine ⟨?_, by simp, fun none => absurd rfl (none invocation)⟩
    rintro _ ⟨⟩
    exact rewrite_isAtomic lawful ran
  | error refusal =>
    rw [answered] at ran
    dsimp only at ran
    rw [system.run_pure] at ran
    cases ran
    obtain ⟨kind, text⟩ := refusal
    cases kind with
    | version | help => exact ⟨nofun, fun _ => ⟨.refl state, rfl⟩, by simp⟩
    | usage => exact ⟨nofun, by simp, fun _ _ _ => ⟨.refl state, rfl⟩⟩

/-- A check that fails behind an output, which replaces an older one and stays. -/
theorem run_atomic_mismatch :
    let dir : Directory := ⟨[(["a.cpp"], .file "auto v = sizeof a[1];".toUTF8),
      (["a.cpp.reconstructed"], .file "old".toUTF8)]⟩
    let system := Directory.system ["work"]
    ∃ outcome after, system.run
        (runWith parseArguments Directory.access ["-v", "--verify", "--indent=4", "/work/a.cpp"])
        dir = (outcome, after) ∧
      outcome.exit.number = 4 ∧
      system.entry? after ["work", "a.cpp.reconstructed"] =
        some (.file "auto v = sizeof(a[1]);\n".toUTF8) ∧
      system.entry? after ["work", "a.cpp"] = some (.file "auto v = sizeof a[1];".toUTF8) := by
  intro dir system
  have checked : (parse "auto v = sizeof a[1];").toOption.map (fun unit =>
      (render ⟨4, .nextLine⟩ unit, survives ⟨4, .nextLine⟩ unit)) =
        some ("auto v = sizeof(a[1]);\n", false) := by
    decide +kernel
  have held : system.text? Directory.access dir "/work/a.cpp" = some "auto v = sizeof a[1];" := by
    decide +kernel
  have free : dir.freePlace? ["work"] "/work/a.cpp.reconstructed" =
      some ["work", "a.cpp.reconstructed"] := by
    decide +kernel
  have leads : system.place? dir "/work/a.cpp.reconstructed" =
      some ["work", "a.cpp.reconstructed"] := (Directory.freePlace?_eq_some free).1
  have asked : AskToRewrite ["-v", "--verify", "--indent=4", "/work/a.cpp"]
      ⟨"/work/a.cpp", ⟨4, .nextLine⟩, true⟩ := parseArguments_ok.mp rfl
  obtain ⟨outcome, after, ran⟩ : ∃ outcome after, system.run
      (runWith parseArguments Directory.access ["-v", "--verify", "--indent=4", "/work/a.cpp"])
      dir = (outcome, after) := ⟨_, _, rfl⟩
  have atomic := (run_atomic (Directory.accessFrom_keepsTo ["work"]) parseArguments_documented
    ran).1 _ asked
  cases parsed : parse "auto v = sizeof a[1];" with
  | error error =>
    rw [parsed] at checked
    cases checked
  | ok unit =>
    rw [parsed] at checked
    obtain ⟨text, fails⟩ := Prod.mk.inj (Option.some.inj checked)
    have read : parsed? system Directory.access dir "/work/a.cpp" = some (.ok unit) := by
      unfold Command.parsed?
      rw [held, Option.map_some, parsed]
    have short : (render ⟨4, .nextLine⟩ unit).utf8ByteSize ≤ textCapacity := by
      rw [text]
      decide +kernel
    obtain ⟨⟨place, leads', holds⟩, numbers, passes⟩ :=
      atomic.written unit _ read (Directory.create_fst.trans free) short
    cases leads.symm.trans leads'
    refine ⟨outcome, after, ran, numbers.resolve_left fun success => ?_, ?_, ?_⟩
    · have survived := survives_iff.mpr (passes.mp success rfl)
      rw [fails] at survived
      cases survived
    · rw [holds, text]
    · refine (atomic.elsewhere ["work", "a.cpp"] fun other => ?_).trans rfl
      have same : @Eq (List String) _ _ := Option.some.inj (leads.symm.trans other)
      exact absurd same (by decide)

/-- A width for which no text can be built. An older output is lost, and nothing takes its place. -/
theorem run_breaks_off :
    let dir : Directory := ⟨[(["a.cpp"], .file "void f() { return; }".toUTF8),
      (["a.cpp.reconstructed"], .file "old".toUTF8)]⟩
    let system := Directory.system ["work"]
    ∃ outcome after, system.run
        (run Directory.access ["--indent", "18446744073709551615", "a.cpp"]) dir =
          (outcome, after) ∧
      outcome.exit.number = 101 ∧
      system.entry? dir ["work", "a.cpp.reconstructed"] = some (.file "old".toUTF8) ∧
      system.entry? after ["work", "a.cpp.reconstructed"] = some (.file .empty) := by
  intro dir system
  have line : (parse "void f() { return; }").toOption.map (fun unit => unit.node.2.written.any
      fun declared => declared.2.written.any fun form => form.2.written.any
        fun body => body.2.written.any fun block => block.2.indentsLine) = some true := by
    decide +kernel
  have held : system.text? Directory.access dir "a.cpp" = some "void f() { return; }" := by
    decide +kernel
  have free : dir.freePlace? ["work"] "a.cpp.reconstructed" =
      some ["work", "a.cpp.reconstructed"] := by
    decide +kernel
  let invocation : Invocation := ⟨"a.cpp", ⟨18446744073709551615, .nextLine⟩, false⟩
  obtain ⟨outcome, after, ran⟩ : ∃ outcome after,
      system.run (rewrite Directory.access invocation) dir = (outcome, after) := ⟨_, _, rfl⟩
  have atomic := rewrite_isAtomic (Directory.accessFrom_keepsTo ["work"]) ran
  cases parsed : parse "void f() { return; }" with
  | error error =>
    rw [parsed] at line
    cases line
  | ok unit =>
    rw [parsed] at line
    have read : parsed? system Directory.access dir "a.cpp" = some (.ok unit) := by
      unfold Command.parsed?
      rw [held, Option.map_some, parsed]
    have indented : unit.node.hasIndentedLine = true :=
      Node.hasIndentedLine_of_below (fun _ => Node.hasIndentedLine_of_below fun _ =>
        Node.hasIndentedLine_of_below fun _ => Node.hasIndentedLine_of_below fun _ =>
          Node.hasIndentedLine_of_line) (Option.some.inj line)
    have long : textCapacity < (render invocation.options unit).utf8ByteSize :=
      Nat.lt_of_lt_of_le (by decide) (indentWidth_le indented)
    obtain ⟨⟨place, leads, empty⟩, broken⟩ :=
      atomic.overlong unit _ read (Directory.create_fst.trans free) long
    have place? : system.place? dir "a.cpp.reconstructed" = some ["work", "a.cpp.reconstructed"] :=
      (Directory.freePlace?_eq_some free).1
    cases place?.symm.trans leads
    exact ⟨outcome, after, ran, broken, rfl, empty⟩

end Command

end CppSyntax
