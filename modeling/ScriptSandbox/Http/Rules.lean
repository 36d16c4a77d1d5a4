import ScriptSandbox.Policy.Basic
import ScriptSandbox.Url.Parser

/-!
# Which URLs may be requested

A URL may be requested when its scheme is `http` or `https` and its host is on the allowlist: equal
to an entry or below it, a dot between them. Trailing dots of a host and the case of its letters do
not matter. An empty list allows every host. The consent function is asked about the hosts that are
not on the list.
-/
namespace ScriptSandbox.Http

structure Rules where
  /-- Entries without blanks at their ends, in lower case. -/
  allowed : List String
  consent : Option (String → Bool)

namespace Rules

def ofPolicy (policy : Policy) : Rules where
  allowed := policy.allowedDomains.map fun entry => Ascii.lowerString (Blank.trim entry)
  consent := policy.networkConsent

/-- The host of a URL without dots at its end, in lower case; empty when there is none. -/
def hostName (url : Url) : String :=
  match url.hostText? with
  | none => ""
  | some host => String.ofList ((Blank.dropEnd (· = '.') host.toList).map Ascii.lower)

/-- Whether a host is an entry or lies below it. -/
def matchesEntry (host entry : String) : Bool :=
  host = entry ||
    match Search.before? entry.toList host.toList with
    | some rest => rest.getLast? = some '.'
    | none => false

def allowsHost (rules : Rules) (host : String) : Bool :=
  !host.isEmpty && rules.allowed.any (matchesEntry host)

/-- Checks a URL, whose text is shown to the consent function. -/
def check (rules : Rules) (raw : String) (url : Url) : Ruling Unit :=
  if url.scheme ≠ "http" ∧ url.scheme ≠ "https" then ⟨.error (.refused (.scheme url.scheme)), []⟩
  -- Without a list nobody is asked.
  else if rules.allowed.isEmpty then ⟨.ok (), []⟩
  else
    let host := hostName url
    if rules.allowsHost host then ⟨.ok (), []⟩
    else match rules.consent with
      | none => ⟨.error (.refused (.host host)), []⟩
      | some approves =>
        ⟨if approves raw then .ok () else .error (.refused (.host host)), [.url raw]⟩

/-- Checks a URL, and gives it back when it passes. -/
def vet (rules : Rules) (raw : String) (url : Url) : Ruling Url :=
  let ruling := rules.check raw url
  ⟨ruling.outcome.map fun _ => url, ruling.asked⟩

def checkText (rules : Rules) (raw : String) : Ruling Url :=
  match Url.parse raw with
  | .error cause => ⟨.error (.misused (.invalidUrl raw cause)), []⟩
  | .ok url => rules.vet raw url

end Rules

end ScriptSandbox.Http
