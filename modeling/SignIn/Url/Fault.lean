/-!
# Why a URL is refused
-/

namespace SignIn

inductive UrlFault where
  | emptyHost
  | badDomainName
  | badPort
  | badV4Address
  | badV6Address
  | badHostCharacter
  | relativeWithoutBase
  | relativeToOpaqueBase
  deriving DecidableEq

def UrlFault.message : UrlFault → String
  | .emptyHost => "empty host"
  | .badDomainName => "invalid international domain name"
  | .badPort => "invalid port number"
  | .badV4Address => "invalid IPv4 address"
  | .badV6Address => "invalid IPv6 address"
  | .badHostCharacter => "invalid domain character"
  | .relativeWithoutBase => "relative URL without a base"
  | .relativeToOpaqueBase => "relative URL with a cannot-be-a-base base"

end SignIn
