/-! # Why a text is no URI

The causes for which a text is refused, and how each of them is put into words.
-/

namespace CodeBridge

/-- Why a text is no URI. -/
inductive UriError where
  /-- There is no scheme. -/
  | relative
  /-- The scheme needs a host, or there is a user or a port and no host. -/
  | emptyHost
  /-- The host is no name of the domain name system. -/
  | domain
  | port
  | ipv4
  | ipv6
  /-- The host holds a character that none may hold. -/
  | hostCharacter
  deriving DecidableEq, Repr

def UriError.message : UriError → String
  | .relative => "relative URL without a base"
  | .emptyHost => "empty host"
  | .domain => "invalid international domain name"
  | .port => "invalid port number"
  | .ipv4 => "invalid IPv4 address"
  | .ipv6 => "invalid IPv6 address"
  | .hostCharacter => "invalid domain character"

end CodeBridge
