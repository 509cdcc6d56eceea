-- SUMMARY: Reading of absolute URLs and of references against a base.
import HistorySearch.Url.Basic

/-!
# URL reading

`Url.parse` reads an absolute URL; `Url.join` reads a reference against a base, of which it takes
the parts that the reference does not have. White space around the text and tabs and line breaks
within it are ignored.
-/

namespace HistorySearch.Url

-- ---------------------------------------------------------------------------
-- Query and fragment
-- ---------------------------------------------------------------------------

/-- The characters that stand for themselves in a fragment. -/
def isFragmentPlain (c : Char) : Bool :=
  0x20 < c.toNat && c.toNat < 0x7F && !("\"<>`".toList.contains c)

/-- The characters that stand for themselves in a user name or password. -/
def isUserPlain (c : Char) : Bool :=
  Path.isPlain c && !("/:;=@[\\]^|".toList.contains c)

def endsPath (c : Char) : Bool :=
  c = '?' || c = '#'

/-- The fragment after a path or a query. -/
def readFragment : List Char → Option String
  | '#' :: cs => some (String.ofList (Percent.encode isFragmentPlain cs))
  | _ => none

def readQuery (k : SchemeKind) : List Char → Option String
  | '?' :: cs => some (String.ofList (Percent.encode (isQueryPlain k) (cs.takeWhile (· ≠ '#'))))
  | _ => none

/-- The URL with the query and fragment that follow its path. -/
def withTail (u : Url) (cs : List Char) : Url :=
  { u with query := readQuery u.kind cs, fragment := readFragment (cs.dropWhile (· ≠ '#')) }

-- ---------------------------------------------------------------------------
-- Authority
-- ---------------------------------------------------------------------------

def endsAuthority (k : SchemeKind) (c : Char) : Bool :=
  k.isSeparator c || endsPath c

def defaultPort? (scheme : String) : Option Nat :=
  if scheme = "http" ∨ scheme = "ws" then some 80
  else if scheme = "https" ∨ scheme = "wss" then some 443
  else if scheme = "ftp" then some 21
  else none

/-- The host up to its port: a colon within brackets belongs to the host. -/
def hostChars : Bool → List Char → List Char
  | _, [] => []
  | inBrackets, c :: cs =>
    if c = ':' ∧ !inBrackets then []
    else c :: hostChars (if c = '[' then true else if c = ']' then false else inBrackets) cs

/-- The port after a host, with what follows it. Under every scheme a backslash ends a port. -/
def readPort (scheme : String) : List Char → Except UrlError (Option Nat × List Char)
  | ':' :: cs =>
    let digits := cs.takeWhile Decimal.isDigit
    let rest := cs.dropWhile Decimal.isDigit
    let port := Decimal.value digits
    if 65535 < port ∨ rest.head?.any (· ≠ '\\') then .error .invalidPort
    else
      .ok (if digits.isEmpty ∨ defaultPort? scheme = some port then none else some port, rest)
  | rest => .ok (none, rest)

/-- The characters before and after the last `@`; `none` if there is none. -/
def splitUser? (cs : List Char) : Option (List Char × List Char) :=
  let after := cs.reverse.takeWhile (· ≠ '@')
  if after.length = cs.length then none
  else some (cs.take (cs.length - after.length - 1), after.reverse)

/-- User name and password, encoded. -/
def readUser (cs : List Char) : String × String :=
  let encode := fun cs => String.ofList (Percent.encode isUserPlain cs)
  (encode (cs.takeWhile (· ≠ ':')), encode ((cs.dropWhile (· ≠ ':')).drop 1))

/-- The host and port after the user information, with what follows them. A `file` URL is read by
`readFile` instead. -/
def readHostPort (k : SchemeKind) (scheme : String) (hasUser : Bool) (cs : List Char) :
    Except UrlError (Host × Option Nat × List Char) := do
  let hostText := hostChars false cs
  let rest := cs.drop hostText.length
  if hostText.isEmpty ∧ (k = .web ∨ !rest.isEmpty) then throw .emptyHost
  let host ← if k = .other then Host.parseOther hostText else Host.parseWeb hostText
  let (port, rest) ← readPort scheme rest
  if host = .none ∧ hasUser then throw .emptyHost
  return (host, port, rest)

/-- The characters up to the end of an authority; a backslash after a port may end it earlier. -/
def authorityText (k : SchemeKind) (cs : List Char) : List Char :=
  cs.takeWhile (!endsAuthority k ·)

/-- The authority in its characters, with those left of them; `ended` tells if others follow. -/
def readAuthority (k : SchemeKind) (scheme : String) (cs : List Char) (ended : Bool) :
    Except UrlError (Authority × List Char) := do
  match splitUser? cs with
  | none =>
    let (host, port, left) ← readHostPort k scheme false cs
    return (⟨"", "", host, port⟩, left)
  | some (user, rest) =>
    if user.isEmpty ∧ rest.isEmpty ∧ ended then throw .emptyHost
    let (username, password) := readUser user
    let (host, port, left) ← readHostPort k scheme (username ≠ "" || password ≠ "") rest
    return (⟨username, password, host, port⟩, left)

-- ---------------------------------------------------------------------------
-- Hierarchies
-- ---------------------------------------------------------------------------

/-- The path that follows an authority. Only a web URL always has one. -/
def pathAfterAuthority (k : SchemeKind) (cs : List Char) : List String :=
  match cs with
  | [] => if k = .other then [] else [""]
  | c :: rest => (Path.read k ⟨[], false⟩ (if k.isSeparator c then rest else c :: rest)).toPath k

/-- Reads what follows the `//` of a URL that is not a `file` URL. -/
def readAfterSlashes (k : SchemeKind) (scheme : String) (cs : List Char) :
    Except UrlError Url := do
  let text := authorityText k cs
  let rest := cs.drop text.length
  let (authority, left) ← readAuthority k scheme text !rest.isEmpty
  let rest := left ++ rest
  let path := pathAfterAuthority k (rest.takeWhile (!endsPath ·))
  let beforeTail : Url := ⟨scheme, some authority, .hierarchy path, none, none⟩
  return withTail beforeTail (rest.dropWhile (!endsPath ·))

/-- Reads a path onto a stack of segments, and what follows it. -/
def readPathOnto (u : Url) (stack : Path.Stack) (cs : List Char) : Url :=
  let path := (Path.read u.kind stack (cs.takeWhile (!endsPath ·))).toPath u.kind
  withTail { u with path := .hierarchy path } (Path.visible (cs.dropWhile (!endsPath ·)))

/-- The segments of a hierarchy, as a stack. -/
def pathStack (u : Url) : Path.Stack :=
  match u.path with
  | .hierarchy segments => ⟨(segments.map String.toList).reverse, false⟩
  | .rootless _ => ⟨[], false⟩

/-- The stack without the last segment. A drive letter at the end of a `file` path stays. -/
def directoryStack (u : Url) : Path.Stack :=
  match (pathStack u).segments with
  | [] => ⟨[], false⟩
  | [a, ':'] :: segs =>
    if u.kind = .file ∧ a.isAlpha then ⟨[a, ':'] :: segs, false⟩ else ⟨segs, false⟩
  | _ :: segs => ⟨segs, false⟩

-- ---------------------------------------------------------------------------
-- File URLs
-- ---------------------------------------------------------------------------

/-- A `file` URL without a host and, so far, without a path. -/
def fileRoot : Url :=
  ⟨"file", some (Authority.ofHost .none), .hierarchy [], none, none⟩

/-- The host of a `file` URL; that of the local machine is left out. -/
def readFileHost (cs : List Char) : Except UrlError Host :=
  if cs.isEmpty then .ok .none
  else do
    let host ← Host.parseWeb cs
    return if host = .name "localhost" then .none else host

/-- The text from the point on at which some visible characters are left, ignored ones included. -/
def lastVisible (whole : List Char) (left : Nat) : List Char :=
  Path.dropVisible ((Path.visible whole).length - left) whole

/-- Reads the path that starts at some of the visible characters, and what follows it. -/
def readFilePathOnto (u : Url) (stack : Path.Stack) (whole cs : List Char) : Url :=
  readPathOnto u stack (lastVisible whole cs.length)

/-- Reads what follows the `//` of a `file` URL. A drive letter is no host, and before a path that
starts with one there is none. Without a host the slash of the path is read as one more. -/
def readFileAfterSlashes (whole cs : List Char) : Except UrlError Url := do
  let text := cs.takeWhile (!endsAuthority .file ·)
  if Path.isDrive text then
    return readFilePathOnto fileRoot ⟨[], false⟩ whole cs
  let host ← readFileHost text
  let rest := lastVisible whole (cs.length - text.length)
  let pathText := rest.takeWhile (!endsPath ·)
  let start := if host = .none then pathText else pathText.dropWhile Path.isIgnored |>.drop 1
  let stack := Path.read .file ⟨[], false⟩ start
  let host := if stack.hasDrive then .none else host
  return withTail
    { fileRoot with
      authority := some (Authority.ofHost host)
      path := .hierarchy (stack.toPath .file) }
    (Path.visible (rest.dropWhile (!endsPath ·)))

/-- The root that a path with one slash starts from: the drive or else the host of the base. -/
def fileRootOf (base : Option Url) (cs : List Char) : Url × Path.Stack :=
  match base with
  | some b =>
    if Path.startsWithDrive (cs.take 3) then (fileRoot, ⟨[], false⟩)
    else
      match b.path with
      | .hierarchy (first :: _) =>
        match first.toList with
        | [a, ':'] => if a.isAlpha then (fileRoot, ⟨[[a, ':']], false⟩)
          else ({ fileRoot with authority := b.authority }, ⟨[], false⟩)
        | _ => ({ fileRoot with authority := b.authority }, ⟨[], false⟩)
      | _ => ({ fileRoot with authority := b.authority }, ⟨[], false⟩)
  | none => (fileRoot, ⟨[], false⟩)

-- ---------------------------------------------------------------------------
-- References
-- ---------------------------------------------------------------------------

def withFragmentOf (base : Url) (cs : List Char) : Url :=
  { base with fragment := readFragment cs }

/-- Reads a reference against a base of the same scheme that is not a `file` URL. -/
def readRelative (base : Url) (cs : List Char) : Except UrlError Url :=
  match cs with
  | [] => .ok { base with fragment := none }
  | '?' :: _ => .ok (withTail base cs)
  | '#' :: _ => .ok (withFragmentOf base cs)
  | c :: rest =>
    if c = '/' ∨ c = '\\' then
      let slashes := cs.takeWhile fun c => c = '/' || c = '\\'
      if 2 ≤ slashes.length then
        let after := if rest.head? = some '/' ∧ c = '/' then rest.drop 1 else cs.drop slashes.length
        readAfterSlashes base.kind base.scheme after
      else .ok (readPathOnto base ⟨[], false⟩ rest)
    else .ok (readPathOnto base (directoryStack base) cs)

/-- Reads a path against a `file` URL, and what follows it. The first segment is written right
behind a drive letter that ends the path of the base, unless that is all of the path. -/
def readBesides (b : Url) (whole cs : List Char) : Url :=
  let read := fun stack => readFilePathOnto b stack whole cs
  match (pathStack b).segments with
  | [a, ':'] :: segs =>
    let first := cs.takeWhile (!endsAuthority .file ·)
    if segs.isEmpty || !a.isAlpha || Path.isSingleDot first then read (directoryStack b)
    else if !Path.isDoubleDot first then
      readPathOnto b ⟨segs, false⟩ ([a, ':'] ++ lastVisible whole cs.length)
    else if (cs.drop first.length).head?.any SchemeKind.file.isSeparator then
      read (directoryStack b)
    else withTail b (cs.drop first.length)
  | _ => read (directoryStack b)

/-- Reads what follows the scheme of a `file` URL, or a reference against one; `whole` is the text
that ends in these characters, with the ignored ones. -/
def readFile (base : Option Url) (whole cs : List Char) : Except UrlError Url :=
  match cs, base with
  | c :: rest, base =>
    if SchemeKind.file.isSeparator c then
      match rest with
      | d :: after =>
        if SchemeKind.file.isSeparator d then readFileAfterSlashes whole after
        else
          let (root, stack) := fileRootOf base rest
          .ok (readFilePathOnto root stack whole rest)
      | [] =>
        let (root, stack) := fileRootOf base rest
        .ok (readPathOnto root stack rest)
    else
      match base with
      | some b =>
        if c = '?' then .ok (withTail b cs)
        else if c = '#' then .ok (withFragmentOf b cs)
        else if Path.startsWithDrive (cs.take 3) then
          .ok (readFilePathOnto fileRoot ⟨[], false⟩ whole cs)
        else .ok (readBesides b whole cs)
      | none => .ok (readFilePathOnto fileRoot ⟨[], false⟩ whole cs)
  | [], some b => .ok { b with fragment := none }
  | [], none => .ok (readPathOnto fileRoot ⟨[], false⟩ [])

-- ---------------------------------------------------------------------------
-- Whole texts
-- ---------------------------------------------------------------------------

/-- Whether a character may stand in a scheme after the first letter. -/
def isSchemeChar (c : Char) : Bool :=
  c.isAlphanum || c = '+' || c = '-' || c = '.'

/-- The scheme in small letters and what follows its colon. -/
def splitScheme? (cs : List Char) : Option (String × List Char) :=
  match cs with
  | c :: _ =>
    if c.isAlpha then
      match cs.dropWhile isSchemeChar with
      | ':' :: rest => some (String.ofList ((cs.takeWhile isSchemeChar).map Char.toLower), rest)
      | _ => none
    else none
  | [] => none

/-- Reads what follows a scheme that is neither `file` nor one of the web. -/
def readOther (scheme : String) (cs : List Char) : Except UrlError Url :=
  match cs with
  | '/' :: '/' :: rest => readAfterSlashes .other scheme rest
  | '/' :: rest => .ok (readPathOnto ⟨scheme, none, .hierarchy [], none, none⟩ ⟨[], false⟩ rest)
  | _ =>
    let keep := fun c : Char => c.toNat < 0x80 && !Host.isControl c
    let path := UrlPath.rootless (String.ofList (Percent.encode keep (cs.takeWhile (!endsPath ·))))
    .ok (withTail ⟨scheme, none, path, none, none⟩ (cs.dropWhile (!endsPath ·)))

/-- Reads what follows a web scheme. A reference with the scheme of the base and fewer than two
slashes is relative. -/
def readWeb (base : Option Url) (scheme : String) (cs : List Char) : Except UrlError Url :=
  let slashes := cs.takeWhile fun c => c = '/' || c = '\\'
  let absolute := readAfterSlashes .web scheme (cs.drop slashes.length)
  match base with
  | some b => if slashes.length < 2 ∧ b.scheme = scheme then readRelative b cs else absolute
  | none => absolute

/-- The text without the white space and control characters around it. -/
def trim (cs : List Char) : List Char :=
  let outside := fun c : Char => c.toNat ≤ 0x20
  ((cs.dropWhile outside).reverse.dropWhile outside).reverse

/-- Reads a URL, or a reference if there is a base, of which the visible characters count. -/
def readChars (base : Option Url) (whole : List Char) : Except UrlError Url :=
  let cs := Path.visible whole
  match splitScheme? cs with
  | some (scheme, rest) =>
    match SchemeKind.ofScheme scheme with
    | .file => readFile (base.filter (·.scheme = "file")) whole rest
    | .web => readWeb base scheme rest
    | .other => readOther scheme rest
  | none =>
    match base with
    | none => .error .missingBase
    | some b =>
      if cs.head? = some '#' then .ok (withFragmentOf b cs)
      else if b.isRootless then .error .rootlessBase
      else if b.kind = .file then readFile (some b) whole cs
      else readRelative b cs

/-- Reads an absolute URL. -/
def parse (text : String) : Except UrlError Url :=
  readChars none (trim text.toList)

/-- Resolves a reference against a base. -/
def join (base : Url) (text : String) : Except UrlError Url :=
  readChars (some base) (trim text.toList)

end HistorySearch.Url
