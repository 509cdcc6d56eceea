-- SUMMARY: The command line.
import HistorySearch.Command.Predicate

/-!
# The command line

A command may have options before and after its name. An option takes one value, after an equals
sign or as the next word; such a word must not look like an option. After two dashes only plain
words follow. A request for help or for the version ends reading where it stands.
-/

namespace HistorySearch

inductive Command
  | serve
  | init
  | predicate (options : PredicateOptions)
  deriving DecidableEq

structure CommandLine where
  /-- The file of settings. -/
  config : Option String
  command : Command
  deriving DecidableEq

/-- Why reading a command line ends early. -/
inductive UsageStop
  /-- Help or the version is asked for. -/
  | information
  | refused
  deriving DecidableEq

/-- The exit code of a run that ends here. -/
def UsageStop.exitCode : UsageStop → Nat
  | information => 0
  | refused => 2

namespace CommandLine

/-! ## Words -/

/-- What may be given to a command. -/
structure Grammar where
  /-- The names of the options. -/
  options : List String
  hasVersion : Bool
  /-- How many plain words may be given. -/
  plainWords : Nat
  deriving DecidableEq

/-- What was given to a command. -/
structure Given where
  options : List (String × String)
  plain : List String
  /-- The last option, if its value was a word of its own and nothing has come after it. It is not
  among the options yet. -/
  held : Option (String × String)
  deriving DecidableEq

def Given.empty : Given :=
  ⟨[], [], none⟩

/-- A word of a command line. -/
inductive Word
  | plain
  /-- Two dashes. -/
  | escape
  | long (name : String) (value : Option String)
  /-- One dash and letters, of which only the first can matter. -/
  | short (letter : Char)
  deriving DecidableEq

def Word.ofText (s : String) : Word :=
  match s.toList with
  | ['-', '-'] => escape
  | '-' :: '-' :: cs =>
    let value :=
      match cs.dropWhile (· ≠ '=') with
      | _ :: v => some (String.ofList v)
      | [] => none
    long (String.ofList (cs.takeWhile (· ≠ '='))) value
  | '-' :: c :: _ => short c
  | _ => plain

/-- The name of the option that names a file of settings; its value is never empty. -/
def configOption : String := "config"

/-- Adds the value of an option that was not given before. -/
def Given.addOption (g : Given) (name value : String) : Except UsageStop Given :=
  if (g.options.lookup name).isSome ∨ (name = configOption ∧ value = "") then .error .refused
  else .ok { g with options := g.options ++ [(name, value)] }

/-- Adds the option that was held back. -/
def Given.settle (g : Given) : Except UsageStop Given :=
  match g.held with
  | none => .ok g
  | some (name, value) => { g with held := none }.addOption name value

/-- Adds a plain word, if the command takes one more. -/
def Given.addPlain (g : Given) (grammar : Grammar) (word : String) : Except UsageStop Given :=
  if g.plain.length < grammar.plainWords then .ok { g with plain := g.plain ++ [word] }
  else .error .refused

def Grammar.isInformation (grammar : Grammar) (name : String) : Bool :=
  name = "help" || (name = "version" && grammar.hasVersion)

def Grammar.isInformationLetter (grammar : Grammar) (c : Char) : Bool :=
  c = 'h' || (c = 'V' && grammar.hasVersion)

/-- Reads the words of a command up to one of the names in `stops`, and what comes from there.
`awaiting` is the option whose value comes next, if there is one. What is wrong with the option
before a word counts before that word, but not before a name in `stops`. -/
def readWords (grammar : Grammar) (stops : List String) :
    (awaiting : Option String) → List String → Given → Except UsageStop (Given × List String)
  | some _, [], _ => .error .refused
  | some name, w :: ws, g =>
    if Word.ofText w = .plain then readWords grammar stops none ws { g with held := some (name, w) }
    else .error .refused
  | none, [], g => .ok (g, [])
  | none, w :: ws, g =>
    if w ∈ stops then .ok (g, w :: ws)
    else
      match Word.ofText w with
      | .escape =>
        (g.settle.bind fun g => ws.foldlM (fun g w => Given.addPlain g grammar w) g).map (·, [])
      | .plain =>
        (g.settle.bind (Given.addPlain · grammar w)).bind fun g => readWords grammar stops none ws g
      | .short c =>
        g.settle.bind fun _ =>
          .error (if grammar.isInformationLetter c then .information else .refused)
      | .long name (some value) =>
        if name ∈ grammar.options then
          (g.settle.bind (Given.addOption · name value)).bind fun g =>
            readWords grammar stops none ws g
        else .error .refused
      | .long name none =>
        g.settle.bind fun g =>
          if name ∈ grammar.options then readWords grammar stops (some name) ws g
          else .error (if grammar.isInformation name then .information else .refused)

/-! ## Commands -/

def commandNames : List String :=
  ["serve", "web", "init", "predicate", "p"]

/-- The word that asks for help about a command. -/
def helpName : String := "help"

def mainGrammar : Grammar :=
  ⟨[configOption], true, 0⟩

/-- What may be given to a command that only does one thing. -/
def plainGrammar : Grammar :=
  ⟨[configOption], false, 0⟩

/-- What may be given to the predicate command: a URL and edits. -/
def predicateGrammar : Grammar :=
  ⟨[configOption, "key", "token-type", "ip-address", "since", "until"], false, 1⟩

/-- The options of the predicate command, which needs a URL. -/
def predicateOptions (g : Given) : Except UsageStop PredicateOptions :=
  match g.plain with
  | [url] =>
    .ok
      { url := url
        key := g.options.lookup "key"
        tokenType := g.options.lookup "token-type"
        ipAddress := g.options.lookup "ip-address"
        since := g.options.lookup "since"
        before := g.options.lookup "until" }
  | _ => .error .refused

def readAll (grammar : Grammar) (words : List String) : Except UsageStop Given :=
  (readWords grammar [] none words Given.empty).bind fun r => r.1.settle

def readCommand (name : String) (words : List String) : Except UsageStop (Given × Command) :=
  if name = "serve" ∨ name = "web" then (readAll plainGrammar words).map (·, .serve)
  else if name = "init" then (readAll plainGrammar words).map (·, .init)
  else do
    let g ← readAll predicateGrammar words
    return (g, .predicate (← predicateOptions g))

/-- Answers a request for help about the commands that are named. -/
def readHelp (words : List String) : UsageStop :=
  match words with
  | [] => .information
  | [name] => if name = helpName ∨ name ∈ commandNames then .information else .refused
  | _ => .refused

/-- Reads a command line; without a command it is to serve. -/
def read (words : List String) : Except UsageStop CommandLine := do
  let (before, rest) ← readWords mainGrammar (helpName :: commandNames) none words Given.empty
  match rest with
  | [] => return ⟨(← before.settle).options.lookup configOption, .serve⟩
  | name :: more =>
    if name = helpName then throw (readHelp more)
    let (after, command) ← readCommand name more
    let config := (← before.settle).options.lookup configOption
    return ⟨(after.options.lookup configOption).or config, command⟩

end CommandLine

end HistorySearch
