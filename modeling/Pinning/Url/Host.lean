import Pinning.Url.Host.IPv4
import Pinning.Url.Host.IPv6
/-!
Hosts of URLs: a name, which is empty where a URL has no host, or an address.
-/

set_option autoImplicit false
set_option relaxedAutoImplicit false

namespace Pinning.Url

inductive Host
  | domain (name : String)
  | ipv4 (address : Nat)
  | ipv6 (groups : List Nat)
  deriving DecidableEq

def Host.render : Host → List Char
  | .domain name => name.toList
  | .ipv4 address => IPv4.render address
  | .ipv6 groups => '[' :: IPv6.render groups ++ [']']

def Host.isEmpty (h : Host) : Bool := h == .domain ""

end Pinning.Url
