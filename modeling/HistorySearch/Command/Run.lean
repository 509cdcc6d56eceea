-- SUMMARY: What the commands do.
import HistorySearch.Command.Line
import HistorySearch.Settings.Lookup

/-!
# Commands

Before a command runs, settings are chosen and checked. Only `init` writes a file, and only if
there is none.
-/

namespace HistorySearch

/-- Why a command fails. -/
inductive CommandError
  | settings (reason : SettingsError)
  | badSettings (problem : ConfigProblem)
  | predicate (problem : PredicateProblem)
  | rejected (errors : FieldErrors)
  deriving DecidableEq

/-- The error in words, with its reasons after it. -/
def CommandError.messages : CommandError → List String
  | settings reason => reason.messages
  | badSettings problem => problem.messages
  | predicate problem => problem.messages
  | rejected errors => [errors.message]

/-- How a command ends. -/
inductive CommandResult
  | done
  /-- A site is to be served with the settings. -/
  | serving (c : Config)
  | failed (e : CommandError)
  deriving DecidableEq

/-- What a command does. -/
structure CommandRun where
  result : CommandResult
  /-- What it prints. -/
  printed : String
  files : FileTree
  events : List Event
  deriving DecidableEq

namespace CommandRun

/-- Prints the errors of a form, each on its line. -/
def errorLines (e : FieldErrors) : String :=
  String.join (e.toList.map fun m => m.1.name ++ ": " ++ m.2 ++ "\n")

/-- Serves, unless that is switched off. -/
def serve (t : FileTree) (c : Config) : CommandRun :=
  if c.enabled then ⟨.serving c, "", t, []⟩
  else ⟨.done, "", t, [Event.warn "Server is disabled in config, nothing to do"]⟩

/-- Saves the default settings, unless there is a file. -/
def init (t : FileTree) : CommandRun :=
  match Config.createDefault t with
  | .error e => ⟨.failed (.settings e), "", t, []⟩
  | .ok none => ⟨.done, Config.localPath ++ " already exists\n", t, []⟩
  | .ok (some after) =>
    ⟨.done, "Created " ++ Config.localPath ++ " with default settings\n", after,
      Config.createEvents t⟩

/-- Shows the predicate of an edited URL and the URL after the submission. -/
def predicate (t : FileTree) (o : PredicateOptions) : CommandRun :=
  match o.run with
  | .error p => ⟨.failed (.predicate p), "", t, o.runEvents⟩
  | .ok s =>
    match s.outcome with
    | .submitted p =>
      ⟨.done, p.toJson.pretty ++ "\nURL: " ++ s.store.text ++ "\n", t, o.runEvents⟩
    | .rejected e => ⟨.failed (.rejected e), errorLines e, t, o.runEvents⟩

/-- Runs a command with settings that were checked. -/
def ofCommand (t : FileTree) (c : Config) : Command → CommandRun
  | .serve => serve t c
  | .init => init t
  | .predicate o => predicate t o

def ofLine (t : FileTree) (dirs : UserDirectories) (line : CommandLine) : CommandRun :=
  let before := Config.chooseEvents t dirs line.config
  match Config.choose t dirs line.config with
  | .error e => ⟨.failed (.settings e), "", t, before⟩
  | .ok c =>
    match c.problem? with
    | some p => ⟨.failed (.badSettings p), "", t, before⟩
    | none =>
      let run := ofCommand t c line.command
      { run with events := before ++ run.events }

end CommandRun

end HistorySearch
