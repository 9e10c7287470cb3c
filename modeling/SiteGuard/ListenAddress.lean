import SiteGuard.Url.Ipv6

/-!
# Listen addresses

The address at which a service waits for requests: an address with a port, an
address alone, which takes the usual port, or the local host by name.
-/

namespace SiteGuard

open Text

inductive IpAddress where
  | v4 (address : Ipv4)
  | v6 (address : Ipv6)
  deriving DecidableEq

structure ListenAddress where
  ip : IpAddress
  /-- The zone of an IPv6 address; zero stands for none. -/
  zone : Nat
  port : Nat
  deriving DecidableEq

namespace IpAddress

def parse? (cs : List Char) : Option IpAddress :=
  ((Ipv4.ofDotted? cs).map v4).or ((Ipv6.parse? cs).map v6)

def loopback : IpAddress := v4 (Ipv4.ofOctets 127 0 0 1)

def text : IpAddress → List Char
  | v4 address => address.text
  | v6 address =>
    match address.mapped? with
    | some old => "::ffff:".toList ++ old.text
    | none => address.text

end IpAddress

namespace ListenAddress

def defaultPort : Nat := 17610

/-! ## Reading -/

inductive Fault where
  | badPort
  | notAnAddress
  deriving DecidableEq, Repr

def Fault.message (input : String) : Fault → String
  | badPort =>
    "invalid --listen '" ++ input ++ "': bad port. Example: 127.0.0.1:" ++ toString defaultPort
  | notAnAddress =>
    "invalid --listen '" ++ input ++ "'. Use ip:port (e.g. 127.0.0.1:" ++ toString defaultPort
      ++ ") or ip (e.g. 127.0.0.1)."

def unsigned? (bound : Nat) (cs : List Char) : Option Nat := do
  let n ← natOfDigits? 10 cs
  if n < bound then some n else none

def zoned? (cs : List Char) : Option (Ipv6 × Nat) :=
  match cut '%' cs with
  | none => (Ipv6.parse? cs).map fun a => (a, 0)
  | some (address, zone) => do some (← Ipv6.parse? address, ← unsigned? UInt32.size zone)

/-- An address with a port, where an IPv6 address stands in brackets. -/
def withPort? (cs : List Char) : Option ListenAddress :=
  match cs with
  | '[' :: rest => do
    let (inside, after) ← cut ']' rest
    let (address, zone) ← zoned? inside
    let port ← unsigned? 65536 (← stripStart [':'] after)
    some ⟨.v6 address, zone, port⟩
  | _ => do
    let (host, port) ← cutLast ':' cs
    let address ← Ipv4.ofDotted? host
    some ⟨.v4 address, 0, ← unsigned? 65536 port⟩

def localName : List Char := "localhost".toList

/-- What stands in front of the last colon, with the port behind it. -/
def split (cs : List Char) : Except Fault ListenAddress :=
  match cutLast ':' cs with
  | none => .error .notAnAddress
  | some (host, port) =>
    match boundedNat? 65536 port with
    | none => .error .badPort
    | some port =>
      if host = localName then .ok ⟨.loopback, 0, port⟩
      else
        match IpAddress.parse? host with
        | some ip => .ok ⟨ip, 0, port⟩
        | none => .error .notAnAddress

def parse (s : String) : Except Fault ListenAddress :=
  let cs := s.toList
  match withPort? cs with
  | some a => .ok a
  | none =>
    match IpAddress.parse? cs with
    | some ip => .ok ⟨ip, 0, defaultPort⟩
    | none => if cs = localName then .ok ⟨.loopback, 0, defaultPort⟩ else split cs

/-! ## Writing -/

def text (a : ListenAddress) : String :=
  let host :=
    match a.ip with
    | .v4 _ => a.ip.text
    | .v6 _ =>
      '[' :: a.ip.text ++ (if a.zone = 0 then [] else '%' :: (toString a.zone).toList) ++ [']']
  String.ofList (host ++ ':' :: (toString a.port).toList)

end ListenAddress
end SiteGuard
