import ScriptSandbox.Script.Program

/-!
# Interpreters

Every evaluation has a runtime and a context of its own, with the bridge to the host in it, and runs
one source there. Each of these steps may fail, and the first that does is reported. What an
interpreter does in a step is given from outside; a run ends in the ways in which the run of a
program does.
-/
namespace ScriptSandbox.Script

/-- What an interpreter does in its steps. Only the run depends on the source. -/
structure Interpreter (α : Type) where
  runtime : Except String Unit
  context : Except String Unit
  bridge : Except String Unit
  run : α → Ending
  /-- What the expression `1+1` gives. -/
  sum : Except String Int32

namespace Interpreter

variable {α : Type}

/-- A step with the status and the complaint that its failure is reported with. -/
def step (status : Guest.Status) (complaint : String) (outcome : Except String Unit) :
    Except Report Unit :=
  outcome.mapError fun cause => ⟨status, complaint ++ cause⟩

def evaluate (interpreter : Interpreter α) (source : α) : Except Report String := do
  step .runtimeCreation "Failed to create JavaScript runtime: " interpreter.runtime
  step .contextCreation "Failed to create JavaScript context: " interpreter.context
  step .bridgeInstall "Failed to install host bridge: " interpreter.bridge
  (interpreter.run source).report

private theorem status_of_step {status : Guest.Status} {complaint : String}
    {outcome : Except String Unit} {report : Report}
    (failed : step status complaint outcome = .error report) : report.status = status := by
  cases outcome with
  | error cause =>
    cases failed
    rfl
  | ok done => cases failed

private theorem error_of_bind {β : Type} {first : Except Report Unit}
    {next : Unit → Except Report β} {report : Report} (failed : (first >>= next) = .error report) :
    first = .error report ∨ next () = .error report := by
  cases first with
  | error other =>
    cases failed
    exact .inl rfl
  | ok done => exact .inr failed

/-- What is reported as an error has the status of a failure. -/
theorem status_ne_success {interpreter : Interpreter α} {source : α} {report : Report}
    (failed : interpreter.evaluate source = .error report) : report.status ≠ .success := by
  rcases error_of_bind failed with runtime | failed
  · simp [status_of_step runtime]
  rcases error_of_bind failed with context | failed
  · simp [status_of_step context]
  rcases error_of_bind failed with bridge | failed
  · simp [status_of_step bridge]
  · exact Ending.status_ne_success failed

/-- The outcome of a test, and the text that tells it. -/
def test (interpreter : Interpreter α) : Guest.SelfTest × String :=
  match interpreter.runtime, interpreter.context, interpreter.sum with
  | .error cause, _, _ => (.runtime, "Runtime creation failed: " ++ cause)
  | .ok _, .error cause, _ => (.context, "Context creation failed: " ++ cause)
  | .ok _, .ok _, .error cause => (.evaluation, "Evaluation failed: " ++ cause)
  | .ok _, .ok _, .ok value => (.ok, "QuickJS OK: 1+1 = " ++ toString value.toInt)

end Interpreter

end ScriptSandbox.Script
