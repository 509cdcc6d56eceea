-- SUMMARY: The settings, their defaults, and what they have to satisfy.
import HistorySearch.Text.Decimal
import HistorySearch.Url.Parser

/-!
# Settings
-/

namespace HistorySearch

structure Config where
  /-- How much is logged. -/
  logLevel : String
  /-- Whether to serve at all. -/
  enabled : Bool
  bindAddress : String
  port : UInt16
  /-- The address under which the site is seen; request targets are resolved against it. -/
  publicUrl : String
  /-- The path of the search page. -/
  basePath : String
  deriving DecidableEq

/-- Why settings are refused. -/
inductive ConfigProblem
  | zeroPort
  | badPublicUrl (text : String) (reason : UrlError)
  | unrootedBasePath (path : String)
  | openBasePath (path : String)
  deriving DecidableEq

def ConfigProblem.messages : ConfigProblem → List String
  | zeroPort => ["Server port cannot be 0 when enabled"]
  | badPublicUrl text reason => ["Invalid public URL: " ++ text, reason.message]
  | unrootedBasePath path => ["Server base path must start with '/': " ++ path]
  | openBasePath path => ["Server base path must not end with '/': " ++ path]

namespace Config

/-- The settings where nothing is said. -/
def defaults : Config :=
  { logLevel := "info"
    enabled := true
    bindAddress := "127.0.0.1"
    port := 8080
    publicUrl := "http://localhost:8080"
    basePath := "/tokens/history" }

def site (c : Config) : Except ConfigProblem Url :=
  (Url.parse c.publicUrl).mapError (.badPublicUrl c.publicUrl)

/-- The first problem of the settings, if there is one. -/
def problem? (c : Config) : Option ConfigProblem :=
  if c.enabled ∧ c.port = 0 then some .zeroPort
  else
    match c.site with
    | .error p => some p
    | .ok _ =>
      match c.basePath.toList with
      | '/' :: rest =>
        if rest.getLast? = some '/' then some (.openBasePath c.basePath) else none
      | _ => some (.unrootedBasePath c.basePath)

end Config

end HistorySearch
