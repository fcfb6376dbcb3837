/-!
# Why a text is no URL

The reasons for which a URL is refused, with the wording shown to the owner of a webhook.
-/

namespace BoardActivity.Url

inductive Failure where
  | relative
  | emptyHost
  | internationalName
  | port
  | ipv4Address
  | ipv6Address
  | hostCharacter
deriving Repr, DecidableEq

namespace Failure

def message : Failure → String
  | relative => "relative URL without a base"
  | emptyHost => "empty host"
  | internationalName => "invalid international domain name"
  | port => "invalid port number"
  | ipv4Address => "invalid IPv4 address"
  | ipv6Address => "invalid IPv6 address"
  | hostCharacter => "invalid domain character"

end Failure

end BoardActivity.Url
