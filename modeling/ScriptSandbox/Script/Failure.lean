import ScriptSandbox.Guest.Status
import ScriptSandbox.Json.Shape
import ScriptSandbox.Text.Search

/-!
# Failures of a script

A guest reports a failed evaluation by a status code and a text. The text may start with `Exception:
`, and what follows the first stack marker in it is the stack. A failure is written as a JSON object
with its fields in the order of their declaration.
-/
namespace ScriptSandbox.Script

/-- The class of a failure, which follows from the status code. -/
inductive FailureClass where
  | exception
  | runtimeInit
  | bridgeInstall
  | allocation
  | resultConversion
  | invalidInput
  | unknown
  deriving DecidableEq, Repr

def FailureClass.name : FailureClass → String
  | exception => "exception"
  | runtimeInit => "runtime_init"
  | bridgeInstall => "bridge_install"
  | allocation => "allocation"
  | resultConversion => "result_conversion"
  | invalidInput => "invalid_input"
  | unknown => "unknown"

def FailureClass.all : List FailureClass :=
  [exception, runtimeInit, bridgeInstall, allocation, resultConversion, invalidInput, unknown]

/-- The class of a status code. -/
def FailureClass.ofCode (code : Int32) : FailureClass :=
  match Guest.Status.ofCode? code with
  | some .exception => .exception
  | some .runtimeCreation | some .contextCreation => .runtimeInit
  | some .bridgeInstall => .bridgeInstall
  | some .bufferAllocation => .allocation
  | some .resultConversion => .resultConversion
  | some .nullInput => .invalidInput
  | some .success | none => .unknown

def FailureClass.ofSelfTest (code : Int32) : FailureClass :=
  if code = Guest.SelfTest.runtime.code ∨ code = Guest.SelfTest.context.code then .runtimeInit
  else if code = Guest.SelfTest.evaluation.code then .exception
  else .unknown

structure Failure where
  kind : FailureClass
  status : Int32
  message : String
  stack : Option String
  logs : List String
  deriving DecidableEq, Repr

namespace Failure

/-- What a guest writes before the message of an exception. -/
def exceptionMark : List Char := "Exception: ".toList

/-- What a guest writes between the message and the stack. -/
def stackMark : List Char := "\nStack: ".toList

/-- The error text of an exception with a message, and a stack where it has one. -/
def exceptionText (message : List Char) (stack : Option (List Char)) : List Char :=
  exceptionMark ++ message ++ (stack.map (stackMark ++ ·)).getD []

def split (raw : List Char) : List Char × Option (List Char) :=
  let body := (Search.after? exceptionMark raw).getD raw
  match Search.cut? stackMark body with
  | some (message, stack) => (message, some stack)
  | none => (body, none)

/-- The failure of an evaluation with a status code and an error text. -/
def ofGuest (status : Int32) (raw : String) : Failure :=
  let (message, stack) := split raw.toList
  ⟨.ofCode status, status, String.ofList message, stack.map String.ofList, []⟩

/-- The failure of a self-test with a status code and a diagnostic text. -/
def ofSelfTest (status : Int32) (raw : String) : Failure := ⟨.ofSelfTest status, status, raw, none, []⟩

def describe (failure : Failure) : String :=
  "script failed (status " ++ String.ofList (Json.integerText failure.status.toInt) ++ "): " ++
    failure.message

def toJson (failure : Failure) : Json :=
  .object [
    ("kind", .string failure.kind.name),
    ("status", .int failure.status.toInt),
    ("message", .string failure.message),
    ("stack", match failure.stack with | some stack => .string stack | none => .null),
    ("logs", .array (failure.logs.map .string))]

def shape : Json.Shape Failure :=
  .record "ScriptError" [
      .of "kind" .required (.variant (FailureClass.all.map fun kind => (kind.name, kind)))
        (fun kind failure => { failure with kind }),
      .of "status" .required (.integer Int32.minValue.toInt Int32.maxValue.toInt "i32")
        (fun status failure => { failure with status := Int32.ofInt status }),
      .of "message" .required .string (fun message failure => { failure with message }),
      .of "stack" .optionalByName (.orNull .string) (fun stack failure => { failure with stack }),
      .of "logs" .optional (.list .string) (fun logs failure => { failure with logs })]
    ⟨.unknown, 0, "", none, []⟩

end Failure

end ScriptSandbox.Script
