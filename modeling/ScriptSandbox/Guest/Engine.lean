import ScriptSandbox.Guest.Image

/-!
# The engine

The engine compiles modules and instantiates them. An instance serves one script: its memory and
globals are fresh, and nothing of it is left for the next one. What happens with an instance is a
`Session` over its memory and the state of its host; it can stop early with a fault, with a panic of
a handler, or because a handler waits.
-/
namespace ScriptSandbox.Guest

inductive Stop where
  | failed (fault : Fault)
  | panicked
  | waiting

abbrev Session := ExceptT Stop (StateM Machine)

namespace Session

def fail {α : Type} (fault : Fault) : Session α := throw (.failed fault)

/-- Runs a function of a guest; a trap is the given fault. -/
def call {σ : Type} (around : Surroundings) (trapped : Fault) (activity : Activity σ) :
    Session (σ × UInt32) :=
  fun machine =>
    match machine.run around activity with
    | (.finished globals result, machine) => (.ok (globals, result), machine)
    | (.trapped, machine) => (.error (.failed trapped), machine)
    | (.panicked, machine) => (.error .panicked, machine)
    | (.waiting, machine) => (.error .waiting, machine)

end Session

structure Instance (σ : Type) where
  image : Image σ
  around : Surroundings
  globals : σ

structure Engine where
  config : EngineConfig

namespace Engine

variable {σ : Type}

/-- An engine. Some vector instructions cannot be taken out while the others stay in, so an engine
without vector instructions is refused. -/
def create (config : EngineConfig) : Except Fault Engine :=
  if config.simd then .ok ⟨config⟩ else .error (.engine .creation)

/-- Compiles what bytes were found to hold, if it is a module. -/
def load (_ : Engine) (name : String) (image : Option (Image σ)) : Except Fault (Module σ) :=
  match image with
  | some image =>
    if image.isValid then .ok ⟨name, image⟩ else .error (.configuration (.moduleInvalid name))
  | none => .error (.configuration (.moduleInvalid name))

/-- The name of a module in a file: the file's name without what follows its last dot, if there is a
dot after the first character. -/
def moduleName (path : String) : String :=
  match (Files.Path.steps path).getLast? with
  | some (.down name) =>
    match name.toList.reverse.dropWhile (· != '.') with
    | _ :: stem@(_ :: _) => String.ofList stem.reverse
    | _ => name
  | _ => "unknown"

def loadFile (_ : Engine) (path : String) (image : Option (Image σ)) : Except Fault (Module σ) :=
  match image with
  | some image =>
    if image.isValid then .ok ⟨moduleName path, image⟩
    else .error (.configuration (.moduleUnreadable path))
  | none => .error (.configuration (.moduleUnreadable path))

/-- Fills the memory with a module's data; none when a part lies outside. -/
def initialMemory (image : Image σ) : Option Memory :=
  image.data.foldlM (fun memory (place, bytes) => memory.write? place bytes)
    (Memory.ofPages image.pages)

/-- Instantiates a module. The memory that the session starts with does not matter. -/
def instantiate (engine : Engine) (module : Module σ) (host : Bridge.Host) :
    Session (Instance σ) := do
  let image := module.image
  let limits := image.limits engine.config
  let around : Surroundings := ⟨host, limits, image.exportsMemory⟩
  if !limits.allows image.pages then Session.fail (.engine .instantiation)
  match initialMemory image with
  | none => Session.fail (.engine .instantiation)
  | some memory => modify fun machine => { machine with memory }
  -- The start function runs before anyone looks at the exports, and the initializer after that.
  let globals ← match image.start with
    | some body => do pure (← Session.call around (.engine .instantiation) (body image.globals)).1
    | none => pure image.globals
  if !image.exportsMemory then Session.fail (.missingExport "memory")
  let globals ← match image.export? "_initialize" with
    | some (.action body) => do
      pure (← Session.call around (.engine .initialization) (body globals)).1
    | _ => pure globals
  return ⟨image, around, globals⟩

end Engine

end ScriptSandbox.Guest
