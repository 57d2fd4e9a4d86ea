import Throughput.Url.Address
import Throughput.Url.Domain
import Throughput.Url.Error

/-! Hosts: names and numeric addresses. -/
namespace Throughput.Url

inductive Host where
  /-- A name in its encoded form; the empty name means no host. -/
  | domain (name : List Char)
  | ipv4 (address : Nat)
  | ipv6 (groups : List Nat)
  deriving DecidableEq, Repr

namespace Host

def render : Host → List Char
  | domain name => name
  | ipv4 address => renderIpv4 address
  | ipv6 groups => renderIpv6 groups

def isEmpty : Host → Bool
  | domain name => name.isEmpty
  | _ => false

def parseBracketed (inside : List Char) : Except Error Host :=
  if inside.getLast? = some ']' then
    match parseIpv6 inside.dropLast with
    | some groups => .ok (ipv6 groups)
    | none => .error .invalidIpv6
  else .error .invalidIpv6

/-- A host of a scheme whose hosts are names of the domain system. -/
def parseDomain (cs : List Char) : Except Error Host :=
  match cs with
  | '[' :: inside => parseBracketed inside
  | cs =>
    match Domain.toAscii (decode cs) with
    | none => .error .invalidDomain
    | some [] => .error .emptyHost
    | some name =>
      if endsInNumber name then
        match parseIpv4 name with
        | some address => .ok (ipv4 address)
        | none => .error .invalidIpv4
      else .ok (domain name)

/-- Characters that no host of another scheme may hold. -/
def forbidden : List Char :=
  ['\x00', '\t', '\n', '\r', ' ', '#', '/', ':', '<', '>', '?', '@', '[', '\\', ']', '^', '|']

def parseOpaque (cs : List Char) : Except Error Host :=
  match cs with
  | '[' :: inside => parseBracketed inside
  | cs =>
    if cs.any forbidden.contains then .error .invalidCharacter
    else .ok (domain (encode .opaquePath cs))

end Host
end Throughput.Url
