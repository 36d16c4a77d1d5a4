import ScriptSandbox.Guest.Engine

/-!
# Exchanging texts with a guest

A guest says where its regions lie. The script is written into its region before the evaluation, and
the result or the error text is read from theirs after it. A guest without accessors for the script
region has it at a fixed place.
-/
namespace ScriptSandbox.Guest

structure Span where
  start : Nat
  length : Nat
  deriving DecidableEq, Repr

/-- The script region of guests without accessors for it. -/
def legacyRegion : Span := ⟨0x100000, 65536⟩

structure Output where
  value : String
  logs : List String
  deriving DecidableEq, Repr

namespace Instance

variable {σ : Type}

def access (inst : Instance σ) (step : ExchangeStep) (name : String) :
    Session (Instance σ × UInt32) := do
  match inst.image.export? name with
  | some (.getter body) =>
    let (globals, value) ←
      Session.call inst.around (.exchange step (.trapped name)) (body inst.globals)
    return ({ inst with globals }, value)
  | _ => Session.fail (.exchange step (.unavailable name))

def region (inst : Instance σ) (step : ExchangeStep) (names : Accessors) :
    Session (Instance σ × Span) := do
  let (inst, start) ← inst.access step names.start
  let (inst, length) ← inst.access step names.length
  if length.toInt32 < 0 then
    Session.fail (.exchange step (.negativeLength names.length length.toInt32))
  return (inst, ⟨start.toNat, length.toNat⟩)

/-- Finds the script region. It has to lie within the memory. -/
def scriptRegion (inst : Instance σ) : Session (Instance σ × Span) := do
  let (inst, span) ←
    if inst.image.hasFunction scriptAccessors.start &&
        inst.image.hasFunction scriptAccessors.length then
      inst.region .locateScript scriptAccessors
    else pure (inst, legacyRegion)
  let memory := (← get).memory
  if !memory.holds span.start span.length then
    Session.fail (.exchange .locateScript (.scriptRegionOutside span.start span.length))
  return (inst, span)

/-- Writes a script to its region, unless it is longer than that. -/
def writeScript (span : Span) (script : Bytes) : Session Unit := do
  if span.length < script.length then Session.fail (.scriptTooLarge script.length span.length)
  match (← get).memory.write? span.start script with
  | some memory => modify fun machine => { machine with memory }
  | none => Session.fail (.exchange .writeScript .targetOutside)

def readText (inst : Instance σ) (step : ExchangeStep) (names : Accessors) : Session String := do
  let (_, span) ← inst.region step names
  match (← get).memory.read? span.start span.length with
  | some bytes => return Utf8.toStringLossy bytes
  | none => Session.fail (.exchange step (.regionOutside span.start span.length))

def takeLog : Session (List String) := do
  let machine ← get
  let lines := machine.state.run.log
  set { machine with state := { machine.state with run := { machine.state.run with log := [] } } }
  return lines

/-- The function that evaluates scripts; `eval` is preferred, whatever its type. -/
def evaluator? (inst : Instance σ) : Option ((start length : UInt32) → σ → Activity σ) :=
  let name := if inst.image.hasFunction "eval" then "eval" else "eval_js"
  match inst.image.export? name with
  | some (.evaluator body) => some body
  | _ => none

/-- Puts a script in its place, and gives what its evaluation does. -/
def prepare (inst : Instance σ) (source : String) : Session (Instance σ × Activity σ) := do
  match inst.evaluator? with
  | none => Session.fail (.missingExport "eval")
  | some eval =>
    let script := Utf8.ofString source
    let (inst, span) ← inst.scriptRegion
    writeScript span script
    return (inst, eval (UInt32.ofNat span.start) (UInt32.ofNat script.length) inst.globals)

/-- What an evaluation came to that ended with a status. -/
def conclude (inst : Instance σ) (status : UInt32) : Session Output := do
  if status.toInt32 = Status.success.code then
    let value ← inst.readText .readResult resultAccessors
    return ⟨value, ← takeLog⟩
  else
    let raw ← inst.readText .readError errorAccessors
    -- The log is taken also from a run that failed, and goes with its failure.
    let failure := { Script.Failure.ofGuest status.toInt32 raw with logs := ← takeLog }
    Session.fail ((← get).state.run.faultOf failure)

def run (inst : Instance σ) (source : String) : Session Output := do
  let (inst, activity) ← inst.prepare source
  let (globals, status) ← Session.call inst.around (.engine .evaluation) activity
  { inst with globals }.conclude status

/-- Runs the guest's test of itself, and gives its diagnostic text. -/
def selfTest (inst : Instance σ) : Session String := do
  match inst.image.export? "quickjs_selftest" with
  | some (.getter body) =>
    let (globals, status) ← Session.call inst.around (.engine .selfTest) (body inst.globals)
    let text ← { inst with globals }.readText .readError errorAccessors
    if status.toInt32 = SelfTest.ok.code then return text
    else Session.fail (.script (.ofSelfTest status.toInt32 text))
  | _ => Session.fail (.missingExport "quickjs_selftest")

end Instance

end ScriptSandbox.Guest
