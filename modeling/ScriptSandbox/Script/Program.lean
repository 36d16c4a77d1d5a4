import ScriptSandbox.Script.Encoding
import ScriptSandbox.Script.Expression
import ScriptSandbox.Script.Failure

/-!
# Programs

A program is a list of statements. Its value is that of its last statement, and it leaves the engine
as a text: primitive values as their strings, everything else as JSON where it has a JSON text. A
program that throws is reported by the string of what it throws, or by its message where that fails,
and by its stack.
-/
namespace ScriptSandbox.Script

inductive Statement where
  /-- One line for the log, made of all arguments. -/
  | console (args : List Expression)
  | value (result : Expression)
  | throw (thrown : Expression)

structure Program where
  source : Bytes
  statements : List Statement

structure Report where
  status : Guest.Status
  message : String
  deriving DecidableEq, Repr

/-- What an evaluation comes to, with the log lines that it sent. -/
structure Evaluation where
  outcome : Except Report String
  lines : List String

/-! ### Texts of results -/

/-- What a computation gives, if it does not throw. -/
def attempt? {α : Type} (run : Run α) (globals : Globals) : Option α := (run globals).1.toOption

/-- Tries a computation. The variables that it sets stay set, also when it throws. -/
def attempt {α : Type} (run : Run α) : StateM Globals (Option α) :=
  fun globals => (attempt? run globals, (run globals).2)

def resultText (value : Value) : StateM Globals (Option String) :=
  match value with
  | .undefined | .null | .boolean _ | .number _ | .string _ => attempt value.toText
  | _ => do
    -- What JSON cannot write is shown as its string instead.
    match ← attempt value.encode with
    | some (some text) => return (ScriptSandbox.Units.toText? text).map String.ofList
    | _ => attempt value.toText

/-- The text of a property, if the value has it and it is neither undefined nor null. -/
def propertyText (value : Value) (name : String) : StateM Globals (Option String) := do
  match ← attempt (value.get? name) with
  | some (some given) => if given.isVoid then return none else attempt given.toText
  | _ => return none

def thrownMessage (thrown : Value) : StateM Globals String := do
  match ← attempt thrown.toText with
  | some text => return text
  | none => return (← propertyText thrown "message").getD "(unable to extract message)"

def thrownText (thrown : Value) : StateM Globals String := do
  let message ← thrownMessage thrown
  let stack ← propertyText thrown "stack"
  return String.ofList (Failure.exceptionText message.toList (stack.map String.toList))

/-! ### Evaluation -/

def consoleLine (values : List Value) : Run String := do
  return String.intercalate " " (← values.mapM Value.toText)

/-- What a statement evaluates to, and the log line that it sends. -/
def Statement.eval (transport : Transport) : Statement → Run (Value × Option String)
  | console args => do return (.undefined, some (← consoleLine (← evalItems transport args)))
  | value result => do return (← result.eval transport, none)
  | throw thrown => do MonadExcept.throw (← thrown.eval transport)

/-- Runs statements one after the other, and gives the value of the last one or what one of them
threw. -/
def execute (transport : Transport) : List Statement → Value → Globals → Completion × List String
  | [], last, globals => (.normal last globals, [])
  | statement :: rest, _, globals =>
    match statement.eval transport globals with
    | (.error thrown, globals) => (.thrown thrown globals, [])
    | (.ok (value, line), globals) =>
      let (completion, lines) := execute transport rest value globals
      (completion, line.toList ++ lines)

/-- How the run of a source ends. -/
inductive Ending where
  /-- With a value, and its text if it has one. -/
  | completed (text : Option String)
  /-- With something thrown, by the text that describes it. -/
  | thrown (description : String)
  /-- With nothing thrown, for a cause of its own. -/
  | failed (cause : String)

def Ending.report : Ending → Except Report String
  | completed (some text) => .ok text
  | completed none => .error ⟨.resultConversion, "Failed to convert result to string"⟩
  | thrown description => .error ⟨.exception, description⟩
  | failed cause => .error ⟨.exception, String.ofList (Failure.exceptionText cause.toList none)⟩

theorem Ending.status_ne_success {ending : Ending} {report : Report}
    (failed : ending.report = .error report) : report.status ≠ .success := by
  cases ending with
  | completed text =>
    cases text with
    | some text => cases failed
    | none =>
      cases failed
      simp
  | thrown description =>
    cases failed
    simp
  | failed cause =>
    cases failed
    simp

/-- The end of a run that came to a completion. -/
def Completion.ending : Completion → Ending
  | normal value globals => .completed (resultText value globals).1
  | thrown value globals => .thrown (thrownText value globals).1

def Completion.report (completion : Completion) : Except Report String := completion.ending.report

/-- The place of the first null byte of a text. -/
def nullPlace? (source : Bytes) : Option Nat := source.findIdx? (· = 0)

/-- The end of a run whose source has a null byte. -/
def nullEnding (place : Nat) : Ending :=
  .failed <| "String contained internal null bytes: nul byte found in provided data at position: " ++
    Nat.repr place

/-- Evaluates a program in a fresh engine. A text with a null byte is not evaluated. -/
def evaluate (transport : Transport) (program : Program) : Evaluation :=
  match nullPlace? program.source with
  | some place => ⟨(nullEnding place).report, []⟩
  | none =>
    let (completion, lines) := execute transport program.statements .undefined []
    ⟨completion.report, lines⟩

end ScriptSandbox.Script
