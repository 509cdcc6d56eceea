-- SUMMARY: URLs, their text, and the writing of their query.
import HistorySearch.Text.FormEncoded
import HistorySearch.Url.Host
import HistorySearch.Url.Path

/-!
# URLs

A URL has its parts in normal form: the text of each part is as it stands in the URL.
-/

namespace HistorySearch

/-- The part of a URL after `//`. -/
structure Authority where
  username : String
  /-- Empty if there is none. -/
  password : String
  host : Host
  /-- Absent if it is the one that goes with the scheme. -/
  port : Option Nat
  deriving DecidableEq

namespace Authority

def ofHost (host : Host) : Authority :=
  ⟨"", "", host, none⟩

/-- The user information, with the sign after it. -/
def userinfo (a : Authority) : List Char :=
  let password := if a.password = "" then [] else ':' :: a.password.toList
  match a.username.toList ++ password with
  | [] => []
  | cs => cs ++ ['@']

def toChars (a : Authority) : List Char :=
  a.userinfo ++ a.host.toChars ++
    match a.port with
    | some port => ':' :: Decimal.digits port
    | none => []

end Authority

/-- The path of a URL. -/
inductive UrlPath
  /-- Segments, each after a slash. -/
  | hierarchy (segments : List String)
  /-- A text that is no hierarchy, so that nothing can be resolved against the URL. -/
  | rootless (text : String)
  deriving DecidableEq

def UrlPath.toChars : UrlPath → List Char
  | hierarchy segments => Path.toChars segments
  | rootless text => text.toList

structure Url where
  scheme : String
  authority : Option Authority
  path : UrlPath
  query : Option String
  fragment : Option String
  deriving DecidableEq

namespace Url

def kind (u : Url) : SchemeKind :=
  .ofScheme u.scheme

/-- Whether the URL has no hierarchy to resolve references in. -/
def isRootless (u : Url) : Bool :=
  match u.path with
  | .hierarchy _ => false
  | .rootless _ => true

/-! ## Text -/

/-- What stands between the scheme and the path. Without an authority a path that starts with two
slashes is set off by a dot, so that it is not taken for one. -/
def authorityChars (u : Url) : List Char :=
  match u.authority with
  | some a => '/' :: '/' :: a.toChars
  | none =>
    match u.path.toChars with
    | '/' :: '/' :: _ => ['/', '.']
    | _ => []

/-- The query with its sign. -/
def queryChars (u : Url) : List Char :=
  match u.query with
  | some q => '?' :: q.toList
  | none => []

/-- The fragment with its sign. -/
def fragmentChars (u : Url) : List Char :=
  match u.fragment with
  | some f => '#' :: f.toList
  | none => []

def toText (u : Url) : String :=
  String.ofList
    (u.scheme.toList ++ ':' :: u.authorityChars ++ u.path.toChars ++ u.queryChars ++
      u.fragmentChars)

/-- The path and the query: what a redirect within the same origin names. -/
def relative (u : Url) : String :=
  String.ofList (u.path.toChars ++ u.queryChars)

/-! ## Writing of the query -/

/-- The characters that stand for themselves in a query. -/
def isQueryPlain (k : SchemeKind) (c : Char) : Bool :=
  0x20 < c.toNat && c.toNat < 0x7F && !("\"#<>".toList.contains c) && !(k ≠ .other && c = '\'')

/-- Removes trailing spaces from a path without hierarchy, which only what comes after it keeps. -/
def trimRootless : UrlPath → UrlPath
  | .rootless text =>
    .rootless (String.ofList (text.toList.reverse.dropWhile (· = ' ')).reverse)
  | path => path

/-- Replaces the query by a text, of which tabs and line breaks are left out and the characters
that do not stand for themselves are encoded. Without a text there is no query. -/
def setQuery (u : Url) : Option String → Url
  | some text =>
    { u with
      query := some
        (String.ofList (Percent.encode (isQueryPlain u.kind) (Path.visible text.toList))) }
  | none =>
    { u with
      query := none
      path := if u.fragment.isNone then trimRootless u.path else u.path }

/-! ## The query as pairs -/

def pairs (u : Url) : List FormEncoded.Pair :=
  FormEncoded.read (u.query.getD "")

/-- Writes pairs as the query; without pairs there is no query. -/
def setPairs (u : Url) (ps : List FormEncoded.Pair) : Url :=
  u.setQuery (if ps.isEmpty then none else some (FormEncoded.write ps))

end Url

end HistorySearch
