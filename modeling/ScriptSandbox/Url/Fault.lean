/-!
# Faults of URLs

Why a text is not a URL.
-/
namespace ScriptSandbox.Url

inductive Fault where
  | relativeWithoutBase
  | emptyHost
  | invalidPort
  | invalidIpv4
  | invalidIpv6
  | invalidInternationalName
  | invalidHostCharacter
  | tooLong
  | relativeToOpaque
  deriving DecidableEq, Repr

def Fault.message : Fault → String
  | relativeWithoutBase => "relative URL without a base"
  | emptyHost => "empty host"
  | invalidPort => "invalid port number"
  | invalidIpv4 => "invalid IPv4 address"
  | invalidIpv6 => "invalid IPv6 address"
  | invalidInternationalName => "invalid international domain name"
  | invalidHostCharacter => "invalid domain character"
  | tooLong => "URLs more than 4 GB are not supported"
  | relativeToOpaque => "relative URL with a cannot-be-a-base base"

end ScriptSandbox.Url
