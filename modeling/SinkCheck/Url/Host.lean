import SinkCheck.Url.Basic
import SinkCheck.Url.Percent
import SinkCheck.Domain.Name
/-
  Reading hosts, and what can be wrong with an address.

  The host of a special scheme is an IPv6 address in brackets, or a text that is percent-decoded and
  taken as a domain name; a domain name whose last label is a number has to be an IPv4 address.  The
  host of any other scheme is only encoded.
-/

namespace SinkCheck.Url

/-- Why a text is not an address. -/
inductive Fault where
  | emptyHost
  | domainName
  | port
  | ipv4
  | ipv6
  | hostCharacter
  | noBase
  deriving Repr, DecidableEq

/-- The wording of a fault. -/
def Fault.message : Fault → String
  | .emptyHost => "empty host"
  | .domainName => "invalid international domain name"
  | .port => "invalid port number"
  | .ipv4 => "invalid IPv4 address"
  | .ipv6 => "invalid IPv6 address"
  | .hostCharacter => "invalid domain character"
  | .noBase => "relative URL without a base"

/-- The address between brackets. -/
def bracketed (s : List Char) : Except Fault Host :=
  if s.getLast? = some ']' then
    match Ipv6.parse? s.dropLast with
    | some gs => .ok (.ipv6 gs)
    | none => .error .ipv6
  else .error .ipv6

/-- The host of a special scheme. -/
def specialHost : List Char → Except Fault Host
  | '[' :: s => bracketed s
  | s =>
    match (decode? s).bind Domain.ascii? with
    | none => .error .domainName
    | some [] => .error .emptyHost
    | some name =>
      if Ipv4.endsInNumber name then
        match Ipv4.parse? name with
        | some a => .ok (.ipv4 a)
        | none => .error .ipv4
      else .ok (.domain (String.ofList name))

/-- The characters that no host of another scheme can hold. -/
def isHostDelimiter (c : Char) : Bool :=
  c.toNat == 0 || "\t\n\r #/:<>?@[\\]^|".toList.contains c

/-- The host of a scheme that is not special. -/
def plainHost : List Char → Except Fault Host
  | '[' :: s => bracketed s
  | s =>
    if s.any isHostDelimiter then .error .hostCharacter
    else .ok (.domain (String.ofList (encode isControl s)))

end SinkCheck.Url
