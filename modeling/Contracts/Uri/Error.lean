/-!
Why a text is no uri.
-/

namespace Contracts.Uri

inductive Error where
  | noScheme
  | noHost
  | badName
  | badAddress
  | badLongAddress
  | badHostCharacter
  | badPort
deriving DecidableEq, Repr

def Error.message : Error → String
  | noScheme => "relative URL without a base"
  | noHost => "empty host"
  | badName => "invalid international domain name"
  | badAddress => "invalid IPv4 address"
  | badLongAddress => "invalid IPv6 address"
  | badHostCharacter => "invalid domain character"
  | badPort => "invalid port number"

end Contracts.Uri
