-- SUMMARY: Where settings are looked for, and how they are saved.
import HistorySearch.Journal
import HistorySearch.Settings.Files
import HistorySearch.Settings.Written

/-!
# Looking up settings

Settings are read from the first of three files that is there; without any the defaults hold. A
file that is there but cannot be read or understood is an error, never skipped. Two of the files are
below directories of the user, of which one or both may be unknown.
-/

namespace HistorySearch

/-- Why settings cannot be read or saved. -/
inductive SettingsError
  | unreadable (path : String) (reason : FileError)
  | malformed (path : String)
  | unwritable (reason : FileError)
  deriving DecidableEq

/-- The error in words, with its reason after it. -/
def SettingsError.messages : SettingsError → List String
  | unreadable path reason => ["Failed to read config file: " ++ path, reason.message]
  | malformed path => ["Failed to parse config file: " ++ path, "not a TOML document of settings"]
  | unwritable reason => [reason.message]

/-- The directories of a user, as far as they are known. -/
structure UserDirectories where
  /-- Where programs keep their settings. -/
  config : Option String
  home : Option String
  deriving DecidableEq

namespace UserDirectories

/-- The directories that the environment gives: settings are in one of their own if its path is
absolute, and otherwise below the home directory. -/
def ofEnvironment (config home : Option String) : UserDirectories :=
  let home := home.filter (· ≠ "")
  { config := (config.filter (·.startsWith "/")).or (home.map (FileTree.join · ".config"))
    home := home }

/-- The directories of a user of whom only the home directory is known. -/
def ofHome (home : String) : UserDirectories :=
  ofEnvironment none (some home)

instance : Coe String UserDirectories := ⟨ofHome⟩

end UserDirectories

namespace Config

/-- The file of settings in the working directory. -/
def localPath : String := "config.toml"

/-- The file of settings in a directory of settings. -/
def userPath (directory : String) : String :=
  FileTree.join directory "token-history/config.toml"

/-- The file of settings in a home directory. -/
def homePath (directory : String) : String :=
  FileTree.join directory ".token-history/config.toml"

/-- The files in which settings are looked for, in order. -/
def paths (dirs : UserDirectories) : List String :=
  localPath :: (dirs.config.map userPath).toList ++ (dirs.home.map homePath).toList

/-! ## Loading -/

def loadFrom (t : FileTree) (path : String) : Except SettingsError Config :=
  match t.read path with
  | .error e => .error (.unreadable path e)
  | .ok content =>
    match ofText? content with
    | some c => .ok c
    | none => .error (.malformed path)

/-- The first file of settings that is there. -/
def found? (t : FileTree) (dirs : UserDirectories) : Option String :=
  (paths dirs).find? t.pathExists

def load (t : FileTree) (dirs : UserDirectories) : Except SettingsError Config :=
  match found? t dirs with
  | some path => loadFrom t path
  | none => .ok defaults

def loadEvents (t : FileTree) (dirs : UserDirectories) : List Event :=
  match found? t dirs with
  | some path => [Event.info ("Loading config from: " ++ path)]
  | none => [Event.info "No config file found, using defaults"]

/-- Reads the settings in a given file, or looks them up. -/
def choose (t : FileTree) (dirs : UserDirectories) : Option String → Except SettingsError Config
  | some path => loadFrom t path
  | none => load t dirs

def chooseEvents (t : FileTree) (dirs : UserDirectories) : Option String → List Event
  | some _ => []
  | none => loadEvents t dirs

/-! ## Saving -/

def saveTo (c : Config) (t : FileTree) (path : String) : Except SettingsError FileTree :=
  (t.save path c.toText).mapError .unwritable

def saveEvents (c : Config) (t : FileTree) (path : String) : List Event :=
  match c.saveTo t path with
  | .ok _ => [Event.info ("Config saved to: " ++ path)]
  | .error _ => []

/-- Saves the defaults in the working directory unless a file is there; `none` if one is. -/
def createDefault (t : FileTree) : Except SettingsError (Option FileTree) :=
  if t.pathExists localPath then .ok none else (defaults.saveTo t localPath).map some

def createEvents (t : FileTree) : List Event :=
  match createDefault t with
  | .ok (some _) =>
    defaults.saveEvents t localPath ++ [Event.info ("Created default config file: " ++ localPath)]
  | _ => []

end Config

end HistorySearch
