-- SUMMARY: The two places in which search parameters are kept.
import HistorySearch.Journal
import HistorySearch.Search.Query
import HistorySearch.Url.Parser

/-!
# Query stores

Search parameters are kept in the query of a URL, or in a list of pairs that counts how often it
was written. Both are read and written as pairs; only the URL has a text, which a write changes.
-/

namespace HistorySearch

/-- A place in which search parameters are kept. -/
inductive Store
  | url (u : Url)
  | memory (pairs : List FormEncoded.Pair) (writes : Nat)
  deriving DecidableEq

namespace Store

def empty : Store :=
  memory [] 0

/-- The pairs of a query text; question marks in front of it are ignored. -/
def ofQuery (query : String) : Store :=
  memory (FormEncoded.read (String.ofList (query.toList.dropWhile (· = '?')))) 0

def pairs : Store → List FormEncoded.Pair
  | url u => u.pairs
  | memory ps _ => ps

def params (s : Store) : QueryParams :=
  QueryParams.ofPairs s.pairs

/-- The text of what is kept: the whole URL, or the query. -/
def text : Store → String
  | url u => u.toText
  | memory ps _ => FormEncoded.write ps

/-- Merges an update into what is kept. -/
def set (s : Store) (u : QueryUpdate) : Store :=
  match s with
  | url v => url (v.setPairs (Query.merge v.pairs u))
  | memory ps writes => memory (Query.merge ps u) (writes + 1)

def writeEvents : Store → List Event
  | url u => [Event.debug ("Search URL updated: " ++ u.toText)]
  | memory _ _ => []

end Store

end HistorySearch
