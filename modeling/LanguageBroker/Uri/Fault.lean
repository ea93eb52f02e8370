/-!
What can be wrong with a text that should be an absolute URI.
-/

namespace LanguageBroker

inductive UriFault
  /-- There is no scheme. -/
  | relative
  /-- There is no host where the scheme, a user or a port wants one. -/
  | emptyHost
  | domain
  /-- A host that ends in a number and is no address of four octets. -/
  | octets
  /-- A host in brackets that is no address of eight pieces. -/
  | pieces
  /-- A host holds a character that none may hold. -/
  | hostCharacter
  | port
  deriving DecidableEq, Repr

namespace UriFault

/-- The fault in words. -/
def message : UriFault → String
  | .relative => "relative URL without a base"
  | .emptyHost => "empty host"
  | .domain => "invalid international domain name"
  | .octets => "invalid IPv4 address"
  | .pieces => "invalid IPv6 address"
  | .hostCharacter => "invalid domain character"
  | .port => "invalid port number"

end UriFault

end LanguageBroker
