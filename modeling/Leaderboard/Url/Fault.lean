/-
# Leaderboard.Url.Fault — what can be wrong with a URL

Each cause has one wording.
-/
set_option autoImplicit false

namespace Leaderboard.Url

inductive Fault where
  | emptyHost
  | invalidName
  | invalidNumber
  | invalidIpv4
  | invalidIpv6
  | forbiddenCharacter
  | noBase
  | plainBase
deriving DecidableEq, Repr

def Fault.message : Fault → String
  | .emptyHost => "empty host"
  | .invalidName => "invalid international domain name"
  | .invalidNumber => "invalid port number"
  | .invalidIpv4 => "invalid IPv4 address"
  | .invalidIpv6 => "invalid IPv6 address"
  | .forbiddenCharacter => "invalid domain character"
  | .noBase => "relative URL without a base"
  | .plainBase => "relative URL with a cannot-be-a-base base"

end Leaderboard.Url
