import ScriptSandbox.Url.Address
import ScriptSandbox.Url.Idna
import ScriptSandbox.Url.Percent

/-!
# Hosts

A host is a domain name or an address. The host of a special scheme is decoded, brought into its
ASCII form, and read as an IPv4 address where its last label is a number; another host is kept as it
is written.
-/
namespace ScriptSandbox.Url

inductive Host where
  | domain (name : String)
  | ipv4 (address : Nat)
  | ipv6 (pieces : List Nat)
  deriving DecidableEq, Repr

namespace Host

def text : Host → String
  | domain name => name
  | ipv4 address => String.ofList (Ipv4.render address)
  | ipv6 pieces => String.ofList ('[' :: (Ipv6.render pieces ++ [']']))

/-- The address between brackets, when a host starts with one. -/
def bracketed? (text : List Char) : Option (Except Fault Host) :=
  match text with
  | '[' :: rest =>
    some <|
      if rest.getLast? = some ']' then (Ipv6.parse rest.dropLast).map .ipv6
      else .error .invalidIpv6
  | _ => none

def parse (text : List Char) : Except Fault Host :=
  match bracketed? text with
  | some outcome => outcome
  | none =>
    match (Utf8.decode? (Percent.decode (Utf8.encode text))).bind Idna.toAscii with
    | none => .error .invalidInternationalName
    | some [] => .error .emptyHost
    | some name =>
      -- A name that ends in a number is an address or nothing.
      if Ipv4.endsInNumber name then (Ipv4.parse name).map .ipv4
      else .ok (.domain (String.ofList name))

/-- The characters that no host may hold. -/
def isForbidden (c : Char) : Bool := c = '\x00' || "\t\n\r #/:<>?@[\\]^|".toList.contains c

/-- The host of a scheme that is not special. -/
def parseVerbatim (text : List Char) : Except Fault Host :=
  match bracketed? text with
  | some outcome => outcome
  | none =>
    if text.any isForbidden then .error .invalidHostCharacter
    else .ok (.domain (String.ofList (Percent.encode Percent.isControl text)))

end Host

end ScriptSandbox.Url
