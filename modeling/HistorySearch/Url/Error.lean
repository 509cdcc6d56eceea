-- SUMMARY: Why a text is not a URL.

/-!
# URL errors
-/

namespace HistorySearch

/-- Why a text is not a URL. -/
inductive UrlError
  | emptyHost
  | invalidDomain
  | invalidPort
  | invalidIpv4
  | invalidIpv6
  | invalidHostCharacter
  /-- A relative reference with nothing to resolve it against. -/
  | missingBase
  /-- A relative reference against a URL that has no hierarchy. -/
  | rootlessBase
  deriving DecidableEq

def UrlError.message : UrlError → String
  | emptyHost => "empty host"
  | invalidDomain => "invalid international domain name"
  | invalidPort => "invalid port number"
  | invalidIpv4 => "invalid IPv4 address"
  | invalidIpv6 => "invalid IPv6 address"
  | invalidHostCharacter => "invalid domain character"
  | missingBase => "relative URL without a base"
  | rootlessBase => "relative URL with a cannot-be-a-base base"

end HistorySearch
