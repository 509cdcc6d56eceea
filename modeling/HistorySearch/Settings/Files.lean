-- SUMMARY: Files in directories, and what can go wrong with them.

/-!
# Files

The files below a working directory, by the names that lead to them. A directory is there if it was
made or if something is in it. What is there but has no text, such as a file that nobody may read,
is kept like a directory: it cannot be read, and is not taken for missing. Paths are followed name by name, so that of several things that
are wrong with a path the first one counts. A path that starts with a slash leads through the root,
below which nothing is known to be.
-/

namespace HistorySearch

/-- What can go wrong with a file. -/
inductive FileError
  | notFound
  | isDirectory
  | notDirectory
  | alreadyExists
  | nameTooLong
  | invalidName
  deriving DecidableEq

def FileError.message : FileError → String
  | notFound => "no such file or directory"
  | isDirectory => "is a directory"
  | notDirectory => "not a directory"
  | alreadyExists => "file exists"
  | nameTooLong => "file name too long"
  | invalidName => "file name contains an unexpected NUL"

/-- The names that lead to a place; names of dots lead above the working directory. -/
abbrev Place := List String

def rootName : String := "/"

/-- Files and directories. -/
structure FileTree where
  files : List (Place × String)
  /-- Directories, and what else is there and cannot be read. -/
  made : List Place
  deriving DecidableEq

namespace FileTree

/-- The names in a path, of which those between two slashes or after the last one are empty. -/
def names (path : String) : List String :=
  match (path.toList.splitOn '/').map String.ofList with
  | "" :: name :: rest => rootName :: name :: rest
  | names => names

/-- Whether a name in a path leads nowhere. -/
def isIdle (name : String) : Bool :=
  name = "" || name = "."

def join (directory path : String) : String :=
  if directory = "" ∨ directory.endsWith "/" then directory ++ path else directory ++ "/" ++ path

/-- The place that a path names when it is followed from the working directory. -/
def place (path : String) : Place :=
  (names path).filter (!isIdle ·)

/-- What is at these paths: a file with its content, or something that cannot be read. -/
def ofEntries (entries : List (String × Option String)) : FileTree where
  files := entries.filterMap fun e => e.2.map (place e.1, ·)
  made := entries.filterMap fun e => if e.2.isNone then some (place e.1) else none

def ofList (files : List (String × String)) : FileTree :=
  ofEntries (files.map fun f => (f.1, some f.2))

/-! ## Places -/

def file? (t : FileTree) (p : Place) : Option String :=
  t.files.lookup p

def isDirectory (t : FileTree) (p : Place) : Bool :=
  p = [rootName] || p.all (· = "..") ||
    (t.made ++ t.files.map (·.1.dropLast)).any fun q => p.isPrefixOf q

def isThere (t : FileTree) (p : Place) : Bool :=
  (t.file? p).isSome || t.isDirectory p

/-- The place above. -/
def above (p : Place) : Place :=
  if p = [rootName] then p else if p.all (· = "..") then ".." :: p else p.dropLast

/-- The most octets in a name. -/
def maxName : Nat := 255

/-- The most octets in a path. -/
def maxPath : Nat := 4095

/-- Follows a name to something that may be missing. -/
def enter (t : FileTree) (p : Place) (name : String) : Except FileError Place :=
  if (t.file? p).isSome then .error .notDirectory
  else if isIdle name then .ok p
  else if name = rootName then .ok [rootName]
  else if name = ".." then .ok (above p)
  else if maxName < name.utf8ByteSize then .error .nameTooLong
  else .ok (p ++ [name])

/-- Follows a name to something that is there. -/
def follow (t : FileTree) (p : Place) (name : String) : Except FileError Place :=
  match t.enter p name with
  | .ok q => if t.isThere q then .ok q else .error .notFound
  | .error e => .error e

/-- Refuses a path that no file can have. -/
def checkPath (path : String) : Except FileError Unit :=
  if path.toList.contains (Char.ofNat 0) then .error .invalidName
  else if path = "" then .error .notFound
  else if maxPath < path.utf8ByteSize then .error .nameTooLong
  else .ok ()

/-- The place of something that is there. -/
def locate (t : FileTree) (path : String) : Except FileError Place := do
  checkPath path
  (names path).foldlM t.follow []

def pathExists (t : FileTree) (path : String) : Bool :=
  match t.locate path with
  | .ok _ => true
  | .error _ => false

def read (t : FileTree) (path : String) : Except FileError String := do
  match t.file? (← t.locate path) with
  | some content => return content
  | none => throw .isDirectory

/-! ## Writing -/

/-- Puts a file in place of one that is there or in a directory. -/
def put (t : FileTree) (p : Place) (content : String) : FileTree :=
  { t with files := (p, content) :: t.files.filter (·.1 ≠ p) }

/-- The names in a path without the empty ones at its end. -/
def namesToLast (path : String) : List String :=
  ((names path).reverse.dropWhile (· = "")).reverse

/-- Writes a file in a directory that is there. A path with a slash at its end is a directory's. -/
def write (t : FileTree) (path content : String) : Except FileError FileTree := do
  checkPath path
  let directory ← (namesToLast path).dropLast.foldlM t.follow []
  let name := (namesToLast path).getLast?.getD ""
  if (t.file? directory).isSome then throw .notDirectory
  if path.endsWith "/" ∨ isIdle name ∨ name = ".." then throw .isDirectory
  let place ← t.enter directory name
  if t.isDirectory place then throw .isDirectory
  return t.put place content

/-- The names of a path without those that lead nowhere; a dot at the start stays. -/
def steps (path : String) : List String :=
  match names path with
  | [] => []
  | first :: rest => (if first = "" then [] else [first]) ++ rest.filter (!isIdle ·)

def makeDirectory (t : FileTree) (steps : List String) : Except FileError FileTree := do
  checkPath ("/".intercalate steps)
  let directory ← steps.dropLast.foldlM t.follow []
  let name := steps.getLast?.getD ""
  let place ← t.enter directory name
  if name = "." ∨ name = ".." ∨ t.isThere place then throw .alreadyExists
  return { t with made := place :: t.made }

def leadToDirectory (t : FileTree) (steps : List String) : Bool :=
  match steps.foldlM t.follow [] with
  | .ok p => t.isDirectory p
  | .error _ => false

/-- Makes one directory, unless it is there. -/
def ensureDirectory (t : FileTree) (steps : List String) : Except FileError FileTree :=
  match t.makeDirectory steps with
  | .ok made => .ok made
  | .error e => if t.leadToDirectory steps then .ok t else .error e

/-- Makes a directory and, where one is missing, those above it. -/
def ensureDirectories (t : FileTree) (steps : List String) : Except FileError FileTree :=
  if steps = [] ∨ steps = [rootName] then .ok t
  else
    match t.ensureDirectory steps with
    | .ok made => .ok made
    | .error .notFound =>
      match ensureDirectories t steps.dropLast with
      | .ok made => made.ensureDirectory steps
      | .error e => .error e
    | .error e => .error e
  termination_by steps.length
  decreasing_by
    have : 0 < steps.length := by
      cases steps with
      | nil => simp_all
      | cons => simp
    simp only [List.length_dropLast]
    omega

/-- Writes a file and makes the directories that it needs. -/
def save (t : FileTree) (path content : String) : Except FileError FileTree := do
  let ready ← t.ensureDirectories (steps path).dropLast
  ready.write path content

end FileTree

end HistorySearch
