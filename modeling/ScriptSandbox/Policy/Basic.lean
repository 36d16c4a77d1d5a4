import ScriptSandbox.Fault
import ScriptSandbox.Text.Blank

/-!
# Policies

A policy says what scripts of one sandbox may reach and how long they may run. It is written as a
JSON object; the two consent functions are not part of its text. `Policy.validate` refuses the
values that can never work.
-/
namespace ScriptSandbox

/-- An operation on files that a script asks for. -/
inductive FileAction where
  | readText
  | writeText
  | listDirectory
  | exists
  | delete
  | createDirectory
  deriving DecidableEq, Repr

def FileAction.all : List FileAction :=
  [readText, writeText, listDirectory, .exists, delete, createDirectory]

def FileAction.word : FileAction → String
  | readText => "read"
  | writeText => "write"
  | listDirectory => "list"
  | .exists => "exists"
  | delete => "delete"
  | createDirectory => "mkdir"

def FileAction.name : FileAction → String
  | readText => "readText"
  | writeText => "writeText"
  | listDirectory => "listDirectory"
  | .exists => "exists"
  | delete => "delete"
  | createDirectory => "createDirectory"

def FileAction.shape : Json.Shape FileAction :=
  .variant (FileAction.all.map fun action => (action.name, action))

/-- A question to one of the consent functions. -/
inductive Question where
  /-- May the script use this path, given as the script gave it? -/
  | file (path : String) (action : FileAction)
  /-- May the script request this URL? -/
  | url (text : String)
  deriving DecidableEq, Repr

def Question.describe : Question → String
  | file path action => action.word ++ " " ++ path
  | url text => text

/-- The outcome of a request that may have consulted a consent function. -/
structure Ruling (α : Type) where
  outcome : Except Fault α
  asked : List Question

/-- What scripts of a sandbox may do. -/
structure Policy where
  /-- The directory that all paths of scripts start from. -/
  root : String := "sandbox"
  /-- The deadline of a run in milliseconds; none when it is zero or negative. -/
  defaultTimeout : Int64 := 30000
  /-- The hosts that scripts may reach, subdomains included; any host when the list is empty. -/
  allowedDomains : List String := []
  /-- The greatest size of a response body in bytes. -/
  maxResponseBytes : UInt64 := 10485760
  requestTimeout : UInt64 := 30000
  /-- Scripts that are evaluated before the user's on every run. -/
  startupScripts : List String := []
  /-- Whether a path outside the root may be used all the same. -/
  fileConsent : Option (String → FileAction → Bool) := none
  /-- Whether a host outside the list may be reached all the same. -/
  networkConsent : Option (String → Bool) := none

namespace Policy

/-- Whether an allowlist entry is a bare host name: not blank, without a slash or a colon, and
without a dot at its start. -/
def isBareHost (entry : String) : Bool :=
  let name := (Blank.trim entry).toList
  !name.isEmpty && !name.contains '/' && !name.contains ':' && name.head? != some '.'

/-- Refuses a policy that can never work, with the first of its faults. -/
def validate (policy : Policy) : Except Fault Unit :=
  if policy.root.isEmpty then .error (.configuration .emptyRoot)
  else if policy.maxResponseBytes = 0 then .error (.configuration .zeroResponseCap)
  else match policy.allowedDomains.find? (!isBareHost ·) with
    | some entry => .error (.configuration (.allowlistEntry entry))
    | none => .ok ()

/-- The deadline of one run in milliseconds: of the call if it names one, of the policy otherwise.
Zero and negative deadlines are none. -/
def effectiveTimeout (policy : Policy) (override : Option Int64) : Option Nat :=
  let limit := (override.getD policy.defaultTimeout).toInt
  if 0 < limit then some limit.toNat else none

def toJson (policy : Policy) : Json :=
  .object [
    ("sandbox_root", .string policy.root),
    ("default_timeout_ms", .int policy.defaultTimeout.toInt),
    ("allowed_domains", .array (policy.allowedDomains.map .string)),
    ("max_response_bytes", .int policy.maxResponseBytes.toNat),
    ("request_timeout_ms", .int policy.requestTimeout.toNat),
    ("startup_scripts", .array (policy.startupScripts.map .string))]

def unsigned (expected : String) : Json.Shape UInt64 :=
  (Json.Shape.integer 0 (UInt64.size - 1) expected).map fun value => UInt64.ofNat value.toNat

/-- How a policy is read from a JSON text. Every field may be left out. -/
def shape : Json.Shape Policy :=
  .record "SandboxPolicy" [
      .of "sandbox_root" .optional .path (fun root policy => { policy with root }),
      .of "default_timeout_ms" .optional (.integer Int64.minValue.toInt Int64.maxValue.toInt "i64")
        (fun limit policy => { policy with defaultTimeout := Int64.ofInt limit }),
      .of "allowed_domains" .optional (.list .string)
        (fun allowedDomains policy => { policy with allowedDomains }),
      .of "max_response_bytes" .optional (unsigned "usize")
        (fun maxResponseBytes policy => { policy with maxResponseBytes }),
      .of "request_timeout_ms" .optional (unsigned "u64")
        (fun requestTimeout policy => { policy with requestTimeout }),
      .of "startup_scripts" .optional (.list .string)
        (fun startupScripts policy => { policy with startupScripts })]
    {}

/-- Reads a policy from the content of a file, and validates it. -/
def ofFile (name : String) (content : Except Files.Fault String) : Except Fault Policy :=
  match content with
  | .error fault => .error (.files fault)
  | .ok text =>
    match shape.parse (Utf8.ofString text) with
    | .error fault => .error (.configuration (.policyFile name fault))
    | .ok policy =>
      match policy.validate with
      | .error fault => .error fault
      | .ok () => .ok policy

end Policy

end ScriptSandbox
