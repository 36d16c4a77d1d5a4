import ScriptSandbox.Guest.Memory
import ScriptSandbox.Guest.TextRegion
import ScriptSandbox.Script.Interpreter

/-!
# The core of a guest

A guest keeps the result of its last evaluation and the last error text in two regions. An
evaluation clears both before it fills one of them, and the test of the interpreter uses the region
for errors. A host reaches a guest by its exported functions, as often as it likes, and finds the
two regions as the last call left them.
-/
namespace ScriptSandbox.Guest

def scriptCapacity : Nat := 1024 * 1024

def resultCapacity : Nat := 64 * 1024

def errorCapacity : Nat := 1024

/-- What a guest keeps between calls. -/
structure Core where
  result : TextRegion := .ofCapacity resultCapacity
  error : TextRegion := .ofCapacity errorCapacity

namespace Core

def clear (core : Core) : Core := ⟨core.result.clear, core.error.clear⟩

/-- Keeps an outcome in its region, and gives the status. -/
def keep (core : Core) : Except Script.Report String → Core × Status
  | .ok text => ({ core with result := core.result.set text.toList }, .success)
  | .error report => ({ core with error := core.error.set report.message.toList }, report.status)

/-- Evaluates a source with an interpreter; there is no source behind a null pointer. -/
def eval {α : Type} (core : Core) (interpret : α → Except Script.Report String) (source : Option α) :
    Core × Status :=
  core.clear.keep <| match source with
    | none => .error ⟨.nullInput, "Script pointer is null"⟩
    | some source => interpret source

/-- What the test of an interpreter that works writes. -/
def selfTestText : String := "QuickJS OK: 1+1 = 2"

/-- Writes what a test of the interpreter tells, and gives its outcome. -/
def tell (core : Core) (told : SelfTest × String) : Core × SelfTest :=
  ({ core with error := core.error.clear.set told.2.toList }, told.1)

/-- The test of an interpreter that works. -/
def selfTest (core : Core) : Core × SelfTest := core.tell (.ok, selfTestText)

end Core

/-! ### Exported functions -/

/-- What a guest evaluates with. -/
structure Runner extends Script.Interpreter Bytes where
  /-- Whether there is room for a copy of so many bytes. -/
  grants : Nat → Bool

/-- Evaluates a copy of a source, to which the interpreter adds a terminator. -/
def Runner.evaluateCopy (runner : Runner) (source : Bytes) : Except Script.Report String :=
  if runner.grants (source.length + 1) then runner.evaluate source
  else .error ⟨.bufferAllocation, "Failed to allocate script copy"⟩

/-- The arguments of an evaluation, and the memory that it finds. A host gives no span that leaves
the memory. -/
structure Call where
  memory : Memory
  pointer : UInt32
  length : Int32
  within : pointer = 0 ∨ memory.holds pointer.toNat length.toInt.toNat

/-- The bytes that a call hands over. A negative length counts as zero. -/
def Call.source? (call : Call) : Option Bytes :=
  if call.pointer = 0 then none
  else some (call.memory.slice call.pointer.toNat call.length.toInt.toNat)

/-- The exported functions that do more than give a place or a length. -/
inductive Visit where
  | eval (call : Call)
  /-- The older name of an evaluation. -/
  | evalJs (call : Call)
  | selfTest

namespace Core

def evaluate (runner : Runner) (core : Core) (call : Call) : Core × Status :=
  core.eval runner.evaluateCopy call.source?

def test (runner : Runner) (core : Core) : Core × SelfTest := core.tell runner.test

/-- What a guest keeps after a call, and the code that it answers with. -/
def serve (runner : Runner) (core : Core) : Visit → Core × Int32
  | .eval call | .evalJs call => (core.evaluate runner call).map id Status.code
  | .selfTest => (core.test runner).map id SelfTest.code

/-- What a guest keeps after a history of calls. -/
def after (runner : Runner) (history : List Visit) : Core :=
  history.foldl (fun core visit => (core.serve runner visit).1) {}

end Core

end ScriptSandbox.Guest
