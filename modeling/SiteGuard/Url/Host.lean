import SiteGuard.Url.Domain
import SiteGuard.Url.Ipv6
import SiteGuard.Url.Percent

/-!
# Hosts

The host of a special scheme is an address or a domain, which is percent-decoded
and brought to its ASCII form.  The host of any other scheme keeps its spelling.
-/

namespace SiteGuard
namespace Url

open Text

inductive Fault where
  | emptyHost
  | invalidDomain
  | invalidPort
  | invalidIpv4
  | invalidIpv6
  | forbiddenHostCharacter
  | noScheme
  deriving DecidableEq, Repr

def Fault.message : Fault → String
  | emptyHost => "empty host"
  | invalidDomain => "invalid international domain name"
  | invalidPort => "invalid port number"
  | invalidIpv4 => "invalid IPv4 address"
  | invalidIpv6 => "invalid IPv6 address"
  | forbiddenHostCharacter => "invalid domain character"
  | noScheme => "relative URL without a base"

inductive Host where
  | domain (name : List Char)
  | ipv4 (address : Ipv4)
  | ipv6 (address : Ipv6)
  deriving DecidableEq

namespace Host

def text : Host → List Char
  | domain name => name
  | ipv4 address => address.text
  | ipv6 address => '[' :: address.text ++ [']']

/-! ## Reading -/

def bracketed (cs : List Char) : Except Fault Host :=
  match cs.getLast?, Ipv6.parse? cs.dropLast with
  | some ']', some address => .ok (ipv6 address)
  | _, _ => .error .invalidIpv6

def ofAscii (name : List Char) : Except Fault Host :=
  if name.isEmpty then .error .emptyHost
  else if Ipv4.endsInNumber name then
    match Ipv4.ofHost? name with
    | some address => .ok (ipv4 address)
    | none => .error .invalidIpv4
  else .ok (domain name)

def parse : List Char → Except Fault Host
  | '[' :: rest => bracketed rest
  | cs =>
    match (Utf8.decode? (Percent.decode cs)).bind Domain.toAscii? with
    | none => .error .invalidDomain
    | some name => ofAscii name

def isForbidden (c : Char) : Bool :=
  ['\x00', '\t', '\n', '\r', ' ', '#', '/', ':', '<', '>', '?', '@', '[', '\\', ']', '^',
    '|'].contains c

def parseVerbatim : List Char → Except Fault Host
  | '[' :: rest => bracketed rest
  | cs =>
    if cs.any isForbidden then .error .forbiddenHostCharacter
    else .ok (domain (Percent.encode Percent.isControl cs))

end Host
end Url
end SiteGuard
