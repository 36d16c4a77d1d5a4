/-!
# Status codes of a guest

A guest answers an evaluation and a self-test with a code. Zero means success, and a code that is
not listed has no status.
-/
namespace ScriptSandbox.Guest

/-- The outcome of one evaluation, as the guest reports it. -/
inductive Status where
  | success
  | runtimeCreation
  | contextCreation
  | exception
  | bridgeInstall
  | nullInput
  | bufferAllocation
  | resultConversion
  deriving DecidableEq, Repr

namespace Status

def code : Status → Int32
  | success => 0
  | runtimeCreation => 20
  | contextCreation => 21
  | exception => 22
  | bridgeInstall => 23
  | nullInput => 24
  | bufferAllocation => 25
  | resultConversion => 26

def all : List Status :=
  [success, runtimeCreation, contextCreation, exception, bridgeInstall, nullInput, bufferAllocation,
   resultConversion]

def ofCode? (code : Int32) : Option Status := all.find? (·.code = code)

theorem ofCode?_code (status : Status) : ofCode? status.code = some status := by
  cases status <;> decide

end Status

inductive SelfTest where
  | ok
  | runtime
  | context
  | evaluation
  deriving DecidableEq, Repr

def SelfTest.code : SelfTest → Int32
  | ok => 0
  | runtime => 100
  | context => 101
  | evaluation => 102

end ScriptSandbox.Guest
