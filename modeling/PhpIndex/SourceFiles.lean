import PhpIndex.Text.Lines

/-!
The source files that can be read, and single lines of them.

* `SourceFiles`: the content of the file at each path, or why there is none to read
  (`ReadError`);
* `SourceFiles.readLine`: a line of a file by its number;
* `Place`: a place in a tree of files, as the names on the way from the root;
* `FileTree`: the files and directories of such a tree;
* `FileTree.read`: the content at a path, of which every name but the last leads through a
  directory; a slash at its start lets it go out from the root, and otherwise it goes out from
  the working directory;
* `FileTree.read_insert`: what is put into a tree is read again;
* `SourceFiles.ofPaths`: the source files of the tree that holds the files of some paths.
-/

namespace PhpIndex

/-! ### Files and their lines -/

/-- Why a path cannot be read. -/
inductive ReadError where
  | notFound
  | isADirectory
  /-- A file is used as if it held others. -/
  | notADirectory
  /-- The path holds the null character, which no name can hold. -/
  | notAPath
deriving DecidableEq

/-- The source files, by what is read at each path. Nothing is assumed of where a path leads, but
the same is read there each time. -/
structure SourceFiles where
  /-- The content of the file at a path. -/
  read : (path : String) → Except ReadError (List UInt8)

/-- The text of a line, counted from one, if the file has it. No file is read for line zero. -/
def SourceFiles.readLine (t : SourceFiles) (path : String) (line : Nat) :
    Except ReadError (Option String) :=
  if line = 0 then .ok none else (t.read path).map (Text.nthLine? · line)

/-! ### Trees of files -/

/-- A place in a tree of files, by the names on the way to it from the root. -/
abbrev Place := List String

namespace Place

/-- The place that a name leads to from a directory. An empty name and a dot stay there, and two
dots go back, if there is anything to go back to. -/
def step (here : Place) (name : String) : Place :=
  if name = "" ∨ name = "." then here
  else if name = ".." then here.dropLast
  else here ++ [name]

/-- The places in which some names are looked up when they are followed one after the other. -/
def passed (here : Place) : List String → List Place
  | [] => []
  | name :: rest => here :: passed (here.step name) rest

end Place

/-- The names of which a path is made up. -/
def pathNames (path : String) : List String := (path.toList.splitOn '/').map String.ofList

/-- What is found at a place. -/
inductive Entry where
  | file (content : List UInt8)
  | directory

/-- A tree of files. -/
structure FileTree where
  /-- The directory from which relative paths go out. -/
  workingDirectory : Place
  files : List (Place × List UInt8) := []
  /-- The directories beside the working directory and those around it. -/
  directories : List Place := []

namespace FileTree

/-- The directory from which a path goes out. -/
def origin (t : FileTree) (path : String) : Place :=
  if path.toList.head? = some '/' then [] else t.workingDirectory

/-- The place that a path leads to. -/
def destination (t : FileTree) (path : String) : Place :=
  (pathNames path).foldl Place.step (t.origin path)

/-- The tree with one more file. It takes the place of an earlier one, and the directories on the
way to it are there from now on. -/
def insert (t : FileTree) (path : String) (content : List UInt8) : FileTree :=
  { t with
    files := (t.destination path, content) :: t.files
    directories := (t.origin path).passed (pathNames path) ++ t.directories }

/-- What is found at a place. -/
def found? (t : FileTree) (place : Place) : Option Entry :=
  if place.isPrefixOf t.workingDirectory ∨ place ∈ t.directories then some .directory
  else (t.files.find? (·.1 = place)).map fun file => .file file.2

/-- The place that some names lead to. What a name is looked up in must be a directory. -/
def follow (t : FileTree) (here : Place) : List String → Except ReadError Place
  | [] => .ok here
  | name :: rest =>
      match t.found? here with
      | none => .error .notFound
      | some (.file _) => .error .notADirectory
      | some .directory => t.follow (here.step name) rest

/-- The content of the file at a path. There is nothing at the empty path. -/
def read (t : FileTree) (path : String) : Except ReadError (List UInt8) :=
  if path.toList.contains '\x00' then .error .notAPath
  else if path = "" then .error .notFound
  else
    (t.follow (t.origin path) (pathNames path)).bind fun place =>
      match t.found? place with
      | none => .error .notFound
      | some .directory => .error .isADirectory
      | some (.file content) => .ok content

variable {t : FileTree}

/-- Names lead to a place if they are looked up in nothing but directories. -/
theorem follow_eq {here : Place} {names : List String}
    (h : ∀ place ∈ here.passed names, t.found? place = some .directory) :
    t.follow here names = .ok (names.foldl Place.step here) := by
  induction names generalizing here with
  | nil => rfl
  | cons name rest ih =>
      obtain ⟨hhere, hrest⟩ := List.forall_mem_cons.mp h
      rw [follow, hhere]
      exact ih hrest

/-- A file that is put into a tree is read at its path, absolute or not, unless the path leads to
a directory. -/
theorem read_insert {path : String} {content : List UInt8} (hnull : '\x00' ∉ path.toList)
    (hne : path ≠ "")
    (hfile : (t.insert path content).found? (t.destination path) ≠ some .directory) :
    (t.insert path content).read path = .ok content := by
  have hpassed : ∀ place ∈ (t.origin path).passed (pathNames path),
      (t.insert path content).found? place = some .directory :=
    fun place hplace => if_pos (.inr (List.mem_append_left _ hplace))
  have hentry : (t.insert path content).found? (t.destination path) = some (.file content) := by
    rw [found?] at hfile ⊢
    split at hfile
    · contradiction
    · rw [if_neg ‹_›]
      simp [insert]
  have hfollow : (t.insert path content).follow (t.origin path) (pathNames path) =
      .ok (t.destination path) := follow_eq hpassed
  have horigin : (t.insert path content).origin path = t.origin path := rfl
  rw [read, if_neg (by simpa using hnull), if_neg hne, horigin, hfollow, Except.bind, hentry]

end FileTree

namespace SourceFiles

/-- The files of some paths. The working directory is without a name, so that the paths of files
in it are relative ones. -/
def ofPaths (files : List (String × List UInt8)) : SourceFiles where
  read := (files.foldl (fun t file => t.insert file.1 file.2)
    ({ workingDirectory := [""] } : FileTree)).read

instance : EmptyCollection SourceFiles := ⟨ofPaths []⟩

end SourceFiles

end PhpIndex
