-- SUMMARY: The target of a request.
import HistorySearch.Text.Utf8

/-!
# Request targets

A request names what it asks for by a path and a query, by a whole URL, by an authority alone, or
by `*`. A fragment is dropped. Which characters may stand where is all that is checked; nothing
is decoded.
-/

namespace HistorySearch

/-- The target of a request. Both parts are empty for an authority alone. -/
structure RequestTarget where
  /-- What is routed. -/
  path : String
  /-- What is resolved against the address of the site: the path and the query. -/
  reference : String
  deriving DecidableEq

namespace RequestTarget

/-- The longest target in octets. -/
def maxLength : Nat := 65534

/-! ## Path and query -/

def isPathChar (c : Char) : Bool :=
  0x20 < c.toNat && c.toNat ≠ 0x7F && !("#<>?`".toList.contains c)

def isQueryChar (c : Char) : Bool :=
  0x20 < c.toNat && c.toNat ≠ 0x7F && !("\"#<>".toList.contains c)

/-- A text, or a slash in place of nothing. -/
def orRoot (cs : List Char) : String :=
  if cs.isEmpty then "/" else String.ofList cs

/-- The query with its sign. -/
def readQuery : List Char → Option (List Char)
  | '?' :: cs =>
    if (cs.takeWhile (· ≠ '#')).all isQueryChar then some ('?' :: cs.takeWhile (· ≠ '#')) else none
  | _ => some []

/-- The target that a path and a query give. -/
def readPath (cs : List Char) : Option RequestTarget :=
  let path := cs.takeWhile fun c => c ≠ '?' && c ≠ '#'
  if path.all isPathChar then
    (readQuery (cs.drop path.length)).map fun query => ⟨orRoot path, orRoot (path ++ query)⟩
  else none

/-! ## Authority -/

/-- What was seen of an authority. -/
structure AuthorityScan where
  /-- The colons since the last `@` or `]`. -/
  colons : Nat
  /-- Whether a `%` came since the last `@` or `]`. -/
  hasPercent : Bool
  isOpened : Bool
  isClosed : Bool
  /-- Whether the last character is an `@`. -/
  endsInAt : Bool
  deriving DecidableEq

/-- Whether a character that has no meaning of its own may stand in an authority. -/
def isAuthorityChar (c : Char) : Bool :=
  c.isAlphanum || "!$&'()*+,-.;=_~".toList.contains c

def scan (s : AuthorityScan) (c : Char) : Option AuthorityScan :=
  let s := { s with endsInAt := false }
  if c = ':' then if s.colons < 8 then some { s with colons := s.colons + 1 } else none
  else if c = '[' then
    if s.hasPercent || s.isOpened then none else some { s with isOpened := true }
  else if c = ']' then
    if s.isOpened && !s.isClosed then
      some { s with isClosed := true, colons := 0, hasPercent := false }
    else none
  else if c = '@' then some { s with colons := 0, hasPercent := false, endsInAt := true }
  else if c = '%' then some { s with hasPercent := true }
  else if isAuthorityChar c then some s
  else none

def isAuthority (cs : List Char) : Bool :=
  match cs.foldlM scan ⟨0, false, false, false, false⟩ with
  | some s => s.isOpened = s.isClosed && s.colons ≤ 1 && !s.endsInAt && !s.hasPercent
  | none => false

/-- The characters up to the end of an authority. -/
def authorityOf (cs : List Char) : List Char :=
  cs.takeWhile fun c => c ≠ '/' && c ≠ '?' && c ≠ '#'

/-! ## Whole targets -/

def isSchemeChar (c : Char) : Bool :=
  c.isAlphanum || "+-.~".toList.contains c

/-- The scheme, which may be empty, and what follows its `://`. -/
def splitScheme? (cs : List Char) : Option (List Char × List Char) :=
  match cs.dropWhile isSchemeChar with
  | ':' :: '/' :: '/' :: rest => some (cs.takeWhile isSchemeChar, rest)
  | _ => none

/-- A target that does not start with a slash. -/
def readFull (cs : List Char) : Option RequestTarget :=
  match (splitScheme? cs).filter fun _ => 3 < cs.length with
  | some (scheme, rest) =>
    let authority := authorityOf rest
    if 64 < scheme.length ∨ authority.isEmpty ∨ !isAuthority authority then none
    else readPath (rest.drop authority.length)
  | none => if authorityOf cs = cs ∧ isAuthority cs then some ⟨"", ""⟩ else none

def read (s : String) : Option RequestTarget :=
  let cs := s.toList
  if cs.isEmpty ∨ maxLength < s.utf8ByteSize then none
  else if cs = ['*'] then some ⟨"*", "*"⟩
  else if cs.head? = some '/' then readPath cs
  else readFull cs

end RequestTarget

end HistorySearch
