import SessionVault.Url.Domain
import SessionVault.Url.Percent

/-!
# Hosts: names and addresses

The host of a scheme for the web is a domain or an address: a domain is written in lower case and in ASCII, and
what ends in a number has to be an address.  The host of any other scheme is a name that means nothing to a
URL, or an address in brackets.  What is wrong with a URL is a `UrlFault`.
-/

namespace SessionVault

/-- What is wrong with the text of a URL. -/
inductive UrlFault where
  | noScheme
  | emptyHost
  | badPort
  | badIpv4
  | badIpv6
  | badDomainCharacter
  | badDomain
deriving DecidableEq

def UrlFault.message : UrlFault → String
  | noScheme => "relative URL without a base"
  | emptyHost => "empty host"
  | badPort => "invalid port number"
  | badIpv4 => "invalid IPv4 address"
  | badIpv6 => "invalid IPv6 address"
  | badDomainCharacter => "invalid domain character"
  | badDomain => "invalid international domain name"

namespace Url

def bracketed (cs : List Char) : Except UrlFault String :=
  if cs.getLast? = some ']' then
    match readIpv6 (cs.drop 1).dropLast with
    | some ps => .ok ("[" ++ ipv6Text ps ++ "]")
    | none => .error .badIpv6
  else .error .badIpv6

/-- Characters that a name cannot hold. -/
def isForbidden (c : Char) : Bool :=
  c.toNat == 0 || ['\t', '\n', '\r', ' ', '#', '/', ':', '<', '>', '?', '@', '[', '\\', ']', '^', '|'].contains c

/-- The host of a scheme that is not for the web. -/
def readName (cs : List Char) : Except UrlFault String :=
  match cs with
  | '[' :: _ => bracketed cs
  | cs =>
    if cs.any isForbidden then .error .badDomainCharacter
    else .ok (String.ofList (percentEncode isControl cs))

/-- The host of a scheme for the web. -/
def readDomain (cs : List Char) : Except UrlFault String :=
  match cs with
  | '[' :: _ => bracketed cs
  | cs =>
    match do domain? (← Bytes.toString? (percentDecode (Bytes.ofString (String.ofList cs)))).toList with
    | none => .error .badDomain
    | some domain =>
      if domain.isEmpty then .error .emptyHost
      else if endsInNumber domain then
        match readIpv4 domain with
        | some n => .ok (ipv4Text n)
        | none => .error .badIpv4
      else .ok (String.ofList domain)

end Url

end SessionVault
