import HttpCascade.Url.Address
import HttpCascade.Url.Domain
import HttpCascade.Url.Percent

/-!
# Hosts

The host of a URL and the ways in which a URL can fail to be one.
-/

namespace HttpCascade

/-- Why a text is not a URL. -/
inductive UrlError where
  | emptyHost
  | invalidDomainName
  | invalidPort
  | invalidIpv4
  | invalidIpv6
  | invalidDomainCharacter
  | relative
  deriving DecidableEq, Repr

def UrlError.message : UrlError → String
  | emptyHost => "empty host"
  | invalidDomainName => "invalid international domain name"
  | invalidPort => "invalid port number"
  | invalidIpv4 => "invalid IPv4 address"
  | invalidIpv6 => "invalid IPv6 address"
  | invalidDomainCharacter => "invalid domain character"
  | relative => "relative URL without a base"

namespace Url

/-- The host of a URL. -/
inductive Host where
  | name (t : Text)
  | ipv4 (address : Nat)
  | ipv6 (groups : List Nat)
  deriving DecidableEq, Repr

namespace Host

def written : Host → Text
  | name t => t
  | ipv4 address => Ipv4.written address
  | ipv6 groups => Ipv6.written groups

/-- The address between brackets. -/
def bracketed (t : Text) : Except UrlError Host :=
  if t.getLast? == some ']' then
    match Ipv6.parse? (t.drop 1).dropLast with
    | some groups => .ok (ipv6 groups)
    | none => .error .invalidIpv6
  else .error .invalidIpv6

/-- The host of a scheme whose hosts are domain names and addresses. -/
def ofDomain (t : Text) : Except UrlError Host :=
  if t.head? == some '[' then bracketed t
  else
    match Domain.toAscii? (Utf8.decodeLossy (Percent.decode t)) with
    | none => .error .invalidDomainName
    | some [] => .error .emptyHost
    | some domain =>
      if Ipv4.isNumeric domain then
        match Ipv4.parse? domain with
        | some address => .ok (ipv4 address)
        | none => .error .invalidIpv4
      else .ok (name domain)

/-- A character that delimits parts of a URL. -/
def isDelimiter (c : Char) : Bool :=
  c ∈ ['\x00', '\t', '\n', '\r', ' ', '#', '/', ':', '<', '>', '?', '@', '[', '\\', ']', '^', '|']

/-- The host of any other scheme, which may be empty. -/
def ofText (t : Text) : Except UrlError Host :=
  if t.head? == some '[' then bracketed t
  else if t.any isDelimiter then .error .invalidDomainCharacter
  else .ok (name (Percent.encode Percent.inPlainPart t))

end Host

end Url

end HttpCascade
