-- SUMMARY: The host of a URL.
import HistorySearch.DomainName.Read
import HistorySearch.Text.Percent
import HistorySearch.Url.Address
import HistorySearch.Url.Error

/-!
# Hosts

A web host is an address or a domain name, which is kept in its ASCII form. Under other schemes a
host is any text without certain delimiters.
-/

namespace HistorySearch

/-- The host of a URL. An empty name is no host. -/
inductive Host
  | name (text : String)
  | ipv4 (address : Nat)
  | ipv6 (pieces : List Nat)
  deriving DecidableEq

namespace Host

def none : Host :=
  name ""

def toChars : Host → List Char
  | name text => text.toList
  | ipv4 address => Ipv4.write address
  | ipv6 pieces => '[' :: Ipv6.write pieces ++ [']']

def isControl (c : Char) : Bool :=
  c.toNat < 0x20 || c.toNat = 0x7F

/-- Characters that no host may have. -/
def isDelimiter (c : Char) : Bool :=
  " #/:<>?@[\\]^|".toList.contains c

def parseBracketed (cs : List Char) : Except UrlError Host :=
  if cs.getLast? = some ']' then
    match Ipv6.parse? (cs.dropLast.drop 1) with
    | some pieces => .ok (ipv6 pieces)
    | Option.none => .error .invalidIpv6
  else .error .invalidIpv6

/-- A host of a web URL; its text is not empty. -/
def parseWeb (cs : List Char) : Except UrlError Host :=
  if cs.head? = some '[' then parseBracketed cs
  else
    match DomainName.ascii? (Utf8.decode (Percent.decode (Utf8.encode cs))) with
    | Option.none => .error .invalidDomain
    | some domain =>
      if domain.isEmpty then .error .emptyHost
      else if Ipv4.endsInNumber domain then
        match Ipv4.parse? domain with
        | some address => .ok (ipv4 address)
        | Option.none => .error .invalidIpv4
      else .ok (name (String.ofList domain))

/-- A host under another scheme; its text may be empty. -/
def parseOther (cs : List Char) : Except UrlError Host :=
  if cs.head? = some '[' then parseBracketed cs
  else if cs.any fun c => c = Char.ofNat 0 || c = '\t' || c = '\n' || c = '\r' || isDelimiter c then
    .error .invalidHostCharacter
  else .ok (name (String.ofList (Percent.encode (fun c => c.toNat < 0x80 && !isControl c) cs)))

end Host

end HistorySearch
