import ScriptSandbox.Bridge.Prelude
import ScriptSandbox.Deadline
import ScriptSandbox.Guest.Exchange

/-!
# Sandboxes

A sandbox holds a compiled guest, a policy and the handlers of an embedder, all checked when it is
built. Every run has an instance of the guest of its own, and ends by the deadline of the policy or
of the call.
-/
namespace ScriptSandbox

open Guest (EngineConfig Image Instance Machine Module Output Session Stop)

/-- Where a guest module comes from. Its content is given when it is a module at all. -/
inductive ModuleSource (σ : Type) where
  | file (path : String) (content : Option (Image σ))
  | bytes (name : String) (content : Option (Image σ))

structure Setup (σ : Type) where
  source : Option (ModuleSource σ) := none
  policy : Policy := {}
  config : EngineConfig := {}
  handlers : Bridge.Handlers := {}

structure Sandbox (σ : Type) where
  engine : Guest.Engine
  module : Module σ
  policy : Policy
  host : Bridge.Host

def ModuleSource.load {σ : Type} (engine : Guest.Engine) :
    ModuleSource σ → Except Fault (Module σ)
  | file path content => engine.loadFile path content
  | bytes name content => engine.load name content

/-- Builds a sandbox, or refuses with the first fault of the policy, the module and the root. -/
def Setup.build {σ : Type} (setup : Setup σ) (workingDirectory : Files.Path)
    (network : Http.Network) (system : Nat → Files.System) : Except Fault (Sandbox σ) := do
  setup.policy.validate
  match setup.source with
  | none => .error (.configuration .moduleMissing)
  | some source =>
    let engine ← Guest.Engine.create setup.config
    let module ← source.load engine
    module.image.validate
    let host ← Bridge.Host.ofPolicy workingDirectory network system setup.policy setup.handlers
    return ⟨engine, module, setup.policy, host⟩

/-- A machine for a fresh instance, in a world that earlier runs have left. -/
def Guest.Machine.fresh (world : Bridge.World) (run : Bridge.Run) : Machine :=
  ⟨.ofPages 0, ⟨world, run⟩⟩

/-- How a job ends whose session ended this way. A session that waits has no end. -/
def Guest.Stop.finish? {α : Type} : Except Stop α → Option (Finish Unit α)
  | .ok value => some (.returned (.ok value))
  | .error (.failed fault) => some (.returned (.error fault))
  | .error .panicked => some (.panicked ())
  | .error .waiting => none

namespace Sandbox

variable {σ : Type}

/-- A text that a script statement makes of a script. -/
def statement (script : String) : String := script ++ ";\n"

/-- The full source of a run: the prelude, the startup scripts, the bindings of the embedder, and
the user's script as the body of a function. -/
def compose (sandbox : Sandbox σ) (user : String) : String :=
  Bridge.preludeScript ++ "\n" ++ String.join (sandbox.policy.startupScripts.map statement) ++
    (sandbox.host.handlers.bootstrap.map statement).getD "" ++
    "(function () \x7b\n" ++ user ++ "\n\x7d)();"

/-- Does a job with a fresh instance under a deadline in milliseconds. -/
def supervise {α : Type} (sandbox : Sandbox σ) (world : Bridge.World) (limit : Option Nat)
    (job : Instance σ → Session α) : Option (Finish Unit α) × Bridge.World :=
  -- Every job gets an instance and a run of its own; only the world goes on from job to job.
  let session : Session α := do job (← sandbox.engine.instantiate sandbox.module sandbox.host)
  let (outcome, machine) := session.run (Machine.fresh world {})
  (Supervision.settle (limit.map (· * 1000)) (Stop.finish? outcome), machine.state.world)

/-- Runs a script under the policy's deadline, or the call's if it names one. -/
def run (sandbox : Sandbox σ) (world : Bridge.World) (source : String) (override : Option Int64) :
    Option (Finish Unit Output) × Bridge.World :=
  sandbox.supervise world (sandbox.policy.effectiveTimeout override) (·.run (sandbox.compose source))

/-- Runs the guest's test of itself in a fresh instance. -/
def selfTest (sandbox : Sandbox σ) (world : Bridge.World) :
    Option (Finish Unit String) × Bridge.World :=
  sandbox.supervise world (sandbox.policy.effectiveTimeout none) (·.selfTest)

end Sandbox

end ScriptSandbox
