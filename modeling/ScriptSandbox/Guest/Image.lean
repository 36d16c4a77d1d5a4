import ScriptSandbox.Guest.Activity
import ScriptSandbox.Guest.EngineConfig

/-!
# Guest modules

A module brings its memory with initial data, its globals, a function that runs when it is
instantiated, and its exports. `Module.validate` asks for the exports that every run needs by name;
whether their types fit is seen when they are called.
-/
namespace ScriptSandbox.Guest

inductive Export (σ : Type) where
  | memory
  | action (body : σ → Activity σ)
  | getter (body : σ → Activity σ)
  /-- A function that takes a span and gives a number. -/
  | evaluator (body : (start length : UInt32) → σ → Activity σ)
  /-- A function of any other type. -/
  | otherFunction

def Export.isFunction {σ : Type} : Export σ → Bool
  | memory => false
  | _ => true

structure Image (σ : Type) where
  pages : Nat
  maxPages : Option Nat
  /-- The initial content of the memory, by place. -/
  data : List (Nat × Bytes)
  globals : σ
  start : Option (σ → Activity σ)
  exports : List (String × Export σ)

structure Module (σ : Type) where
  name : String
  image : Image σ

/-- The names of the exports that the host calls. -/
structure Accessors where
  start : String
  length : String

def scriptAccessors : Accessors := ⟨"get_script_buffer_ptr", "get_script_buffer_len"⟩

def resultAccessors : Accessors := ⟨"get_result_ptr", "get_result_len"⟩

def errorAccessors : Accessors := ⟨"get_last_error_ptr", "get_last_error_len"⟩

namespace Image

variable {σ : Type}

/-- Whether the parts of a module fit together. -/
def isValid (image : Image σ) : Bool :=
  image.pages ≤ Memory.pageBound &&
    (match image.maxPages with
      | some most => image.pages ≤ most && most ≤ Memory.pageBound
      | none => true) &&
    decide (image.exports.map Prod.fst).Nodup

def export? (image : Image σ) (name : String) : Option (Export σ) := image.exports.lookup name

def functionNames (image : Image σ) : List String :=
  (image.exports.filter (·.2.isFunction)).map Prod.fst

def hasFunction (image : Image σ) (name : String) : Bool := image.functionNames.contains name

/-- Whether the memory is exported as the host expects it. -/
def exportsMemory (image : Image σ) : Bool :=
  match image.export? "memory" with
  | some .memory => true
  | _ => false

/-- The exports, beside the memory and the evaluator, that every run needs. -/
def required : List String :=
  [resultAccessors.start, resultAccessors.length, errorAccessors.start, errorAccessors.length]

/-- Refuses a module that lacks an export which every run needs. -/
def validate (image : Image σ) : Except Fault Unit :=
  if !image.exportsMemory then .error (.missingExport "memory")
  else if !image.hasFunction "eval" && !image.hasFunction "eval_js" then .error (.missingExport "eval")
  else match required.find? (!image.hasFunction ·) with
    | some name => .error (.missingExport name)
    | none => .ok ()

/-- How far the memory may grow under a configuration. -/
def limits (image : Image σ) (config : EngineConfig) : Memory.Limits :=
  ⟨image.maxPages, config.maxMemory.toNat⟩

end Image

end ScriptSandbox.Guest
