import ScriptSandbox.Fault

/-!
# Host calls

A host call names a method and carries a list of arguments. A handler turns it into an answer; it
may also panic, or wait for a cancellation that does not come.
-/
namespace ScriptSandbox.Bridge

structure Call where
  /-- The method as the script named it. -/
  method : String
  args : List Json
  cancelled : Bool

inductive Answer where
  | value (value : Json)
  | failed (fault : Fault)
  | panicked
  /-- It waits until the run is given up. -/
  | waiting

abbrev Handler := Call → Answer

namespace Call

/-- The argument at an index, null when there is none. -/
def arg (call : Call) (index : Nat) : Json := call.args[index]?.getD .null

def stringArg (call : Call) (index : Nat) : Except Fault String :=
  match (call.arg index).asString? with
  | some text => .ok text
  | none => .error (.misused (.notString call.method index))

def numberArg (call : Call) (index : Nat) : Except Fault Binary64 :=
  match (call.arg index).asNumber? with
  | some value => .ok value
  | none => .error (.misused (.notNumber call.method index))

end Call

def Answer.ofExcept : Except Fault Json → Answer
  | .ok result => .value result
  | .error fault => .failed fault

end ScriptSandbox.Bridge
