import CppSyntax.Files

/-!
Systems of files. A program that runs on one takes what is in its places to what is in them afterwards,
and file access keeps to the system if it reads what is there, and if creating a file and writing it
either succeed completely or leave everything as it was. A directory in memory is such a system.
-/

namespace CppSyntax

/-- What programs of a monad run on: paths lead to places, which hold files or directories. -/
structure FileSystem (m : Type → Type) [Monad m] where
  State : Type
  run {α : Type} : m α → State → α × State
  run_pure {α : Type} (value : α) (state : State) : run (pure value) state = (value, state)
  run_bind {α β : Type} (program : m α) (next : α → m β) (state : State) :
    run (program >>= next) state = run (next (run program state).1) (run program state).2
  Place : Type
  place? : State → String → Option Place
  entry? : State → Place → Option Entry

namespace FileSystem

variable {m : Type → Type} [Monad m] (system : FileSystem m)

/-- Nothing differs between two states that a path or a place could show. -/
structure Unchanged (before after : system.State) : Prop where
  place? : ∀ path, system.place? after path = system.place? before path
  entry? : ∀ place, system.entry? after place = system.entry? before place

variable {system} in
theorem Unchanged.refl (state : system.State) : system.Unchanged state state :=
  ⟨fun _ => rfl, fun _ => rfl⟩

variable {system} in
theorem Unchanged.trans {first second third : system.State} (earlier : system.Unchanged first second)
    (later : system.Unchanged second third) : system.Unchanged first third :=
  ⟨fun path => (later.place? path).trans (earlier.place? path),
    fun place => (later.entry? place).trans (earlier.entry? place)⟩

/-- Two states differ at most at a place, and there the later one holds a file. -/
structure Holds (before after : system.State) (place : system.Place) (content : ByteArray) :
    Prop where
  entry : system.entry? after place = some (.file content)
  elsewhere : ∀ other, other ≠ place → system.entry? after other = system.entry? before other

variable {system} {first second third : system.State} {place : system.Place}

theorem Holds.trans {content text : ByteArray} (earlier : system.Holds first second place content)
    (later : system.Holds second third place text) : system.Holds first third place text :=
  ⟨later.entry, fun other apart =>
    (later.elsewhere other apart).trans (earlier.elsewhere other apart)⟩

/-- Where only the place of a path differs, nothing differs elsewhere. -/
theorem Unchanged.elsewhere {path : String} {content : ByteArray}
    (unchanged : system.Unchanged first second) (leads : system.place? second path = some place)
    (holds : system.Holds second third place content) (other : system.Place)
    (apart : system.place? first path ≠ some other) :
    system.entry? third other = system.entry? first other := by
  refine (holds.elsewhere other fun same => apart ?_).trans (unchanged.entry? other)
  rw [← unchanged.place? path, leads, same]

end FileSystem

/-- File access that keeps to a system. What it reads is the content of the file that the path leads
to, though it may fail to read it; what it has created is empty and can be written. -/
structure FileAccess.KeepsTo {m : Type → Type} [Monad m] (files : FileAccess m)
    (system : FileSystem m) : Prop where
  read_unchanged (path : String) (state : system.State) :
    system.Unchanged state (system.run (files.read path) state).2
  read_content {path : String} {state : system.State} {content : ByteArray} :
    (system.run (files.read path) state).1 = some content →
      ∃ place, system.place? state path = some place ∧
        system.entry? state place = some (.file content)
  create_fails {path : String} {state after : system.State} :
    system.run (files.create path) state = (none, after) → system.Unchanged state after
  create_empties {path : String} {state after : system.State} {handle : files.Handle} :
    system.run (files.create path) state = (some handle, after) →
      ∃ place, system.place? state path = some place ∧ system.Holds state after place .empty
  write_fills {path : String} {state created : system.State} {handle : files.Handle}
    {place : system.Place} (content : ByteArray) :
    system.run (files.create path) state = (some handle, created) →
      system.place? state path = some place →
        ∃ after, system.run (files.write handle content) created = (true, after) ∧
          system.Holds created after place content

namespace Directory

variable {home : List String} {dir : Directory} {path : String} {place other : List String}
  {content : ByteArray}

/-- A directory in memory, which lies at `home`. -/
def system (home : List String) : FileSystem (StateM Directory) where
  State := Directory
  run program := program.run
  run_pure _ _ := rfl
  run_bind _ _ _ := rfl
  Place := List String
  place? dir := dir.resolve home
  entry? dir := dir.entry? home

theorem content?_eq_some : dir.content? home path = some content ↔
    ∃ place, dir.resolve home path = some place ∧ dir.entry? home place = some (.file content) := by
  unfold content?
  rw [← Option.bind_eq_some_iff]
  cases (dir.resolve home path).bind (dir.entry? home) with
  | none => simp
  | some entry => cases entry <;> simp

theorem entry?_withFile_self (above : place.isPrefixOf home = false)
    (inside : home.isPrefixOf place = true) :
    Directory.entry? home (dir.withFile home place content) place = some (.file content) := by
  simp [Directory.entry?, above, inside, withFile]

theorem lookup_filter_ne {names others : List String} (different : others ≠ names)
    (entries : List (List String × Entry)) :
    (entries.filter (·.1 != names)).lookup others = entries.lookup others := by
  induction entries with
  | nil => rfl
  | cons first rest ih =>
    obtain ⟨key, value⟩ := first
    by_cases same : key = names
    · subst same
      have passed : (others == key) = false := beq_eq_false_iff_ne.mpr different
      simp [List.lookup_cons, passed, ih]
    · simp [same, List.lookup_cons, ih]

theorem entry?_withFile_of_ne (inside : home.isPrefixOf place = true) (different : other ≠ place) :
    Directory.entry? home (dir.withFile home place content) other = dir.entry? home other := by
  unfold Directory.entry?
  split
  · rfl
  split
  · rename_i below
    have apart : other.drop home.length ≠ place.drop home.length := fun same => different <| by
      rw [← List.prefix_iff_eq_append.mp (List.isPrefixOf_iff_prefix.mp below), same,
        List.prefix_iff_eq_append.mp (List.isPrefixOf_iff_prefix.mp inside)]
    rw [withFile, List.lookup_cons, beq_eq_false_iff_ne.mpr apart]
    exact lookup_filter_ne apart dir.entries
  · rfl

theorem withFile_holds (above : place.isPrefixOf home = false)
    (inside : home.isPrefixOf place = true) (content : ByteArray) :
    (system home).Holds dir (dir.withFile home place content) place content :=
  ⟨entry?_withFile_self above inside, fun _ => entry?_withFile_of_ne inside⟩

/-- The directories on the way are no places for files, and neither is anything beside them. -/
theorem freePlace?_eq_some (free : dir.freePlace? home path = some place) :
    dir.resolve home path = some place ∧ place.isPrefixOf home = false ∧
      home.isPrefixOf place = true := by
  obtain ⟨found, fits⟩ := Option.filter_eq_some_iff.mp free
  obtain ⟨inside, vacant⟩ := Bool.and_eq_true_iff.mp fits
  refine ⟨found, ?_, inside⟩
  cases above : place.isPrefixOf home with
  | false => rfl
  | true => simp [isDirectory, Directory.entry?, above] at vacant

/-- A file is created if there is a place for it. -/
theorem create_cases (home : List String) (path : String) (dir : Directory) :
    (dir.freePlace? home path = none ∧
      (system home).run ((accessFrom home).create path) dir = (none, dir)) ∨
    ∃ place, dir.freePlace? home path = some place ∧
      (system home).run ((accessFrom home).create path) dir =
        (some place, dir.withFile home place .empty) := by
  have ran : (system home).run ((accessFrom home).create path) dir =
      match dir.freePlace? home path with
      | none => (none, dir)
      | some place => (some place, dir.withFile home place .empty) := by
    simp only [system, accessFrom, StateT.run_bind, StateT.run_get, pure_bind]
    cases dir.freePlace? home path <;> rfl
  rw [ran]
  cases dir.freePlace? home path with
  | none => exact .inl ⟨rfl, rfl⟩
  | some place => exact .inr ⟨place, rfl, rfl⟩

theorem create_fst : ((system home).run ((accessFrom home).create path) dir).1 =
    dir.freePlace? home path := by
  rcases create_cases home path dir with ⟨taken, ran⟩ | ⟨place, free, ran⟩
  · exact (congrArg Prod.fst ran).trans taken.symm
  · exact (congrArg Prod.fst ran).trans free.symm

/-- Access to a directory in memory keeps to it. -/
theorem accessFrom_keepsTo (home : List String) : (accessFrom home).KeepsTo (system home) where
  read_unchanged _ dir := .refl dir
  read_content := content?_eq_some.mp
  create_fails {path dir after} created := by
    rcases create_cases home path dir with ⟨_, ran⟩ | ⟨_, _, ran⟩
    · cases ran.symm.trans created
      exact .refl dir
    · cases ran.symm.trans created
  create_empties {path dir after handle} created := by
    rcases create_cases home path dir with ⟨_, ran⟩ | ⟨_, free, ran⟩
    · cases ran.symm.trans created
    · cases ran.symm.trans created
      obtain ⟨leads, above, inside⟩ := freePlace?_eq_some free
      exact ⟨handle, leads, withFile_holds above inside .empty⟩
  write_fills {path dir after handle place} content created leads := by
    rcases create_cases home path dir with ⟨_, ran⟩ | ⟨_, free, ran⟩
    · cases ran.symm.trans created
    · cases ran.symm.trans created
      obtain ⟨leads', above, inside⟩ := freePlace?_eq_some free
      cases leads'.symm.trans leads
      exact ⟨_, rfl, withFile_holds above inside content⟩

end Directory

end CppSyntax
