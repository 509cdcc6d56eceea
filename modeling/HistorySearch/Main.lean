-- SUMMARY: The program: it reads arguments and files, runs the command, prints and writes.
import HistorySearch.Command.Run

/-!
# The program

All that is decided is decided by `CommandLine.read` and `CommandRun.ofLine`; here their input is
fetched and their results are put where they belong. Nothing listens for requests here: a host
that does passes them to `Site.respond`.
-/

namespace HistorySearch.Main

/-- What is at a path: a text, or the reason for which it cannot be read. -/
abbrev Fetched := String × Except String String

/-- Reads what is at a path, unless nothing is. -/
def fetch (path : String) : IO (Option Fetched) := do
  try
    return some (path, .ok (← IO.FS.readFile path))
  catch e =>
    try
      -- A path that leads to something has a real path, whether or not that can be read.
      discard (IO.FS.realPath path)
      return some (path, .error (toString e))
    catch _ => return none

def fetchAll (paths : List String) : IO (List Fetched) := do
  return (← paths.mapM fetch).filterMap id

/-- The files that were fetched; what cannot be read is there nevertheless. -/
def filesOf (fetched : List Fetched) : FileTree :=
  .ofEntries (fetched.map fun f => (f.1, f.2.toOption))

/-- The error in words, with the reason for which a fetched file cannot be read. -/
def messages (fetched : List Fetched) (e : CommandError) : List String :=
  match e with
  | .settings (.unreadable path _) =>
    match fetched.lookup path with
    | some (.error reason) => e.messages.dropLast ++ [reason]
    | _ => e.messages
  | _ => e.messages

def eventLine (e : Event) : String :=
  e.level.name ++ " " ++ e.message ++
    String.join (e.details.map fun d => " " ++ d.1 ++ "=" ++ d.2)

/-- An error with its reasons, each on its line. -/
def errorText (messages : List String) : String :=
  "Error: " ++ "\nCaused by: ".intercalate messages

/-- Writes the file of settings in the working directory if the run changed it. -/
def store (before after : FileTree) : IO Unit := do
  match after.read Config.localPath with
  | .ok content =>
    if (before.read Config.localPath).toOption ≠ some content then
      IO.FS.writeFile Config.localPath content
  | .error _ => return ()

/-- Reports how a command ended, and its exit code. -/
def report (fetched : List Fetched) : CommandResult → IO UInt32
  | .done => return 0
  | .serving c => do
    IO.eprintln s!"The site at {c.publicUrl} is ready, but nothing listens for it here"
    return 1
  | .failed e => do
    IO.eprintln (errorText (messages fetched e))
    return 1

def runLine (line : CommandLine) : IO UInt32 := do
  let dirs := UserDirectories.ofEnvironment (← IO.getEnv "XDG_CONFIG_HOME") (← IO.getEnv "HOME")
  let fetched ← fetchAll (Config.paths dirs ++ line.config.toList)
  let files := filesOf fetched
  let run := CommandRun.ofLine files dirs line
  store files run.files
  for e in run.events do IO.eprintln (eventLine e)
  IO.print run.printed
  report fetched run.result

/-- What the program can be told to do. -/
def usage : String :=
  "Usage: token-history [--config FILE] [serve | init | predicate URL [OPTIONS]]"

end HistorySearch.Main

def main (arguments : List String) : IO UInt32 := do
  match HistorySearch.CommandLine.read arguments with
  | .ok line => HistorySearch.Main.runLine line
  | .error stop =>
    IO.eprintln HistorySearch.Main.usage
    return UInt32.ofNat stop.exitCode
