import ScriptSandbox.Policy.Basic

/-!
# Configuration of the engine

The resources of one guest and the features of the engine that runs it, written as a JSON object.
-/
namespace ScriptSandbox.Guest

structure EngineConfig where
  /-- The greatest size of a guest's memory in bytes. -/
  maxMemory : UInt64 := 268435456
  /-- How hard the compiler tries, from 0 to 3. -/
  optimization : UInt8 := 2
  simd : Bool := true
  /-- Whether what a guest writes to its error stream is passed on. -/
  inheritsStderr : Bool := false
  /-- The configuration file of the cache for compiled modules. -/
  cachePath : Option String := none
  deriving DecidableEq, Repr

namespace EngineConfig

/-- A configuration for tight memory. -/
def minimal : EngineConfig := { maxMemory := 67108864 }

/-- A configuration that compiles fast and shows what guests print. -/
def development : EngineConfig := { optimization := 0, inheritsStderr := true }

/-- Sets the optimization level, at most 3. -/
def optimize (config : EngineConfig) (level : UInt8) : EngineConfig :=
  { config with optimization := min level 3 }

def toJson (config : EngineConfig) : Json :=
  .object [
    ("max_memory", .int config.maxMemory.toNat),
    ("optimization_level", .int config.optimization.toNat),
    ("enable_simd", .boolean config.simd),
    ("inherit_stderr", .boolean config.inheritsStderr),
    ("cache_path", match config.cachePath with | some path => .string path | none => .null)]

/-- How a configuration is read from a JSON text. Every field may be left out. -/
def shape : Json.Shape EngineConfig :=
  .record "WasmConfig" [
      .of "max_memory" .optional (Policy.unsigned "usize") (fun maxMemory config => { config with maxMemory }),
      .of "optimization_level" .optional (.integer 0 255 "u8")
        (fun level config => { config with optimization := UInt8.ofNat level.toNat }),
      .of "enable_simd" .optional .boolean (fun simd config => { config with simd }),
      .of "inherit_stderr" .optional .boolean (fun inheritsStderr config => { config with inheritsStderr }),
      .of "cache_path" .optional (.orNull .path) (fun cachePath config => { config with cachePath })]
    {}

end EngineConfig

end ScriptSandbox.Guest
