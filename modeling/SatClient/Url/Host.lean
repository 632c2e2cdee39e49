import SatClient.Idna.Domain
import SatClient.Url.Ipv4
import SatClient.Url.Ipv6
import SatClient.Url.Percent

/-! Hosts: a domain name, or an address of either version. The ways in which a text can fail to
be a URL stand here too, since most of them lie in its host.
-/

namespace SatClient.Url

inductive Fault where
  | relativeWithoutBase
  | emptyHost
  | invalidPort
  | invalidIpv4
  | invalidIpv6
  | invalidDomainName
  | invalidHostCharacter
  deriving DecidableEq, Repr

def Fault.message : Fault → String
  | relativeWithoutBase => "relative URL without a base"
  | emptyHost => "empty host"
  | invalidPort => "invalid port number"
  | invalidIpv4 => "invalid IPv4 address"
  | invalidIpv6 => "invalid IPv6 address"
  | invalidDomainName => "invalid international domain name"
  | invalidHostCharacter => "invalid domain character"

/-- Where a server is found. -/
inductive Host where
  | name (text : List Char)
  | ipv4 (address : Ipv4)
  | ipv6 (address : Ipv6)
  deriving DecidableEq, Repr

namespace Host

def bracketed (rest : List Char) : Except Fault Host :=
  match rest.reverse with
  | ']' :: inner =>
      match Ipv6.parse? inner.reverse with
      | some address => .ok (ipv6 address)
      | none => .error .invalidIpv6
  | _ => .error .invalidIpv6

def parse (text : List Char) : Except Fault Host :=
  match text with
  | '[' :: rest => bracketed rest
  | _ =>
      match (Utf8.decode? (unescaped text)).bind Idna.toAscii? with
      | none => .error .invalidDomainName
      | some [] => .error .emptyHost
      | some domain =>
          if Ipv4.endsInNumber domain then
            match Ipv4.parse? domain with
            | some address => .ok (ipv4 address)
            | none => .error .invalidIpv4
          else .ok (name domain)

/-- Characters that a host of an unknown scheme may not hold. -/
def isForbidden (c : Char) : Bool :=
  c ∈ ['\x00', '\t', '\n', '\r', ' ', '#', '/', ':', '<', '>', '?', '@', '[', '\\', ']', '^', '|']

/-- Check a host where the scheme says nothing about hosts. -/
def checkOpaque (text : List Char) : Except Fault Unit :=
  match text with
  | '[' :: rest => (fun _ => ()) <$> bracketed rest
  | _ => if text.any isForbidden then .error .invalidHostCharacter else .ok ()

def text : Host → List Char
  | name text => text
  | ipv4 address => address.text
  | ipv6 address => '[' :: address.text ++ [']']

end Host

end SatClient.Url
