/-!
# What is wrong with the authority of a URL
-/

namespace Switchyard.Url

/-- Why the text before the path of a URL is refused. -/
inductive Fault
  | emptyHost
  | badPortNumber
  | badIpv4
  | badIpv6
  | badDomainName
  | badDomainCharacter
deriving DecidableEq, Repr

def Fault.message : Fault → String
  | .emptyHost => "empty host"
  | .badPortNumber => "invalid port number"
  | .badIpv4 => "invalid IPv4 address"
  | .badIpv6 => "invalid IPv6 address"
  | .badDomainName => "invalid international domain name"
  | .badDomainCharacter => "invalid domain character"

end Switchyard.Url
