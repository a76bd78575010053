/-!
Why a text is no URL.
-/

set_option autoImplicit false
set_option relaxedAutoImplicit false

namespace Pinning.Url

inductive Error
  | emptyHost
  | invalidInternationalName
  | invalidDomainCharacter
  | invalidPort
  | invalidIPv4
  | invalidIPv6
  | relativeWithoutBase
  | relativeToPathOnly
  deriving DecidableEq

def Error.message : Error → String
  | .emptyHost => "empty host"
  | .invalidInternationalName => "invalid international domain name"
  | .invalidDomainCharacter => "invalid domain character"
  | .invalidPort => "invalid port number"
  | .invalidIPv4 => "invalid IPv4 address"
  | .invalidIPv6 => "invalid IPv6 address"
  | .relativeWithoutBase => "relative URL without a base"
  | .relativeToPathOnly => "relative URL with a cannot-be-a-base base"

end Pinning.Url
