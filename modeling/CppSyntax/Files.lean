/-!
Files as the program sees them: what it does with them, in some monad, and a directory that offers this
in memory. A path is resolved from the root if it starts with a slash, otherwise from the directory that
the program works in.
-/

namespace CppSyntax

/-- What a program does with files. A file that is created is empty, whatever it held before, and is
written through the handle that its creation gives. -/
structure FileAccess (m : Type → Type) where
  Handle : Type
  read : String → m (Option ByteArray)
  create : String → m (Option Handle)
  write : Handle → ByteArray → m Bool

inductive Entry where
  | file (content : ByteArray)
  | directory

/-- What lies in the directory that a program works in and in those below it, by the names on the
way. -/
structure Directory where
  entries : List (List String × Entry)

/-- The names of a path, which an empty one and a `.` keep in place. -/
def pathNames : List Char → List (List Char)
  | [] => [[]]
  | '/' :: rest => [] :: pathNames rest
  | c :: rest =>
    match pathNames rest with
    | [] => [[c]]
    | first :: more => (c :: first) :: more

namespace Directory

/-- The longest name, in bytes, that a directory can hold. -/
def nameLimit : Nat := 255

/-- The longest path, in bytes, that can be resolved. -/
def pathLimit : Nat := 4095

def empty : Directory := ⟨[]⟩

/-- What lies at a place, given by the names from the root on, if the directory itself lies at `home`.
Above it there are only the directories on the way. -/
def entry? (home : List String) (dir : Directory) (place : List String) : Option Entry :=
  if place.isPrefixOf home then some .directory
  else if home.isPrefixOf place then dir.entries.lookup (place.drop home.length)
  else none

def isDirectory (home : List String) (dir : Directory) (place : List String) : Bool :=
  match dir.entry? home place with
  | some .directory => true
  | _ => false

/-- Where names lead from a place that must be a directory as long as more names follow. The root is
its own parent. -/
def walk (home : List String) (dir : Directory) (place : List String) :
    List String → Option (List String)
  | [] => some place
  | name :: rest =>
    if !dir.isDirectory home place then none
    else if name == "" || name == "." then walk home dir place rest
    else if name == ".." then walk home dir place.dropLast rest
    else if nameLimit < name.utf8ByteSize then none
    else walk home dir (place ++ [name]) rest

/-- Where a path leads. -/
def resolve (home : List String) (dir : Directory) (path : String) : Option (List String) :=
  if pathLimit < path.utf8ByteSize then none
  else match path.toList with
    | [] => none
    | '/' :: rest => dir.walk home [] ((pathNames rest).map String.ofList)
    | chars => dir.walk home home ((pathNames chars).map String.ofList)

/-- The content of the file that a path leads to. -/
def content? (home : List String) (dir : Directory) (path : String) : Option ByteArray :=
  match (dir.resolve home path).bind (dir.entry? home) with
  | some (.file content) => some content
  | _ => none

/-- Where a file can be created by a path: in the directory or below it, and not in the place of a
directory. -/
def freePlace? (home : List String) (dir : Directory) (path : String) : Option (List String) :=
  (dir.resolve home path).filter fun place => home.isPrefixOf place && !dir.isDirectory home place

/-- The directory with a file at a place. -/
def withFile (home : List String) (dir : Directory) (place : List String) (content : ByteArray) :
    Directory :=
  let names := place.drop home.length
  ⟨(names, .file content) :: dir.entries.filter (·.1 != names)⟩

/-- What lies in the directory itself. -/
def topLevel (dir : Directory) : List (String × Entry) :=
  dir.entries.filterMap fun
    | ([name], entry) => some (name, entry)
    | _ => none

/-- The files of a directory that is carried along and lies at `home`. -/
def accessFrom (home : List String) : FileAccess (StateM Directory) where
  Handle := List String
  read path := do return (← get).content? home path
  create path := do
    match (← get).freePlace? home path with
    | some place =>
      modify (·.withFile home place .empty)
      return some place
    | none => return none
  write place content := do
    modify (·.withFile home place content)
    return true

/-- The files of a directory of which the name does not matter. -/
def access : FileAccess (StateM Directory) := accessFrom ["work"]

end Directory

end CppSyntax
