import ScriptSandbox.Proofs.Guest.ErrorText
import ScriptSandbox.Proofs.Guest.Running

/-!
# Refusals that a script does not catch

The run of a script that does not catch a refusal should end with it. It does so exactly when the
host still finds a recorded message in what it hears of the error.
-/
namespace ScriptSandbox.Guest

open Script (Failure)
open Script.Failure (exceptionMark stackMark exceptionText)

variable {σ : Type}

/-- A run ends with a refusal. -/
def EndsRefused (outcome : Except Stop Output) : Prop :=
  ∃ message, outcome = .error (.failed (.refused (.other message)))

/-- A run ends as a plain failure of its script. -/
def EndsFailed (outcome : Except Stop Output) : Prop :=
  ∃ failure, outcome = .error (.failed (.script failure))

/-- The run of a script that does not catch a refusal. On the way a built-in refuses a call, then
the evaluation ends with an exception, and the region for error texts holds the text of the
refusal's error, with a stack or without. -/
structure Uncaught (inst : Instance σ) (source : String) (machine : Machine) (cause : Refusal) where
  ready : Instance σ
  activity : Activity σ
  started : Machine
  prepared : (inst.prepare source).run machine = (.ok (ready, activity), started)
  /-- The state in which the refused call finds the host. -/
  state : Bridge.State
  payload : Bytes
  answers : Machine.Answers ready.around activity started state payload
  refused : ready.around.host.refusal? state payload = some cause
  globals : σ
  status : UInt32
  evaluated : Machine
  finished : started.run ready.around activity = (.finished globals status, evaluated)
  failed : status.toInt32 = Status.exception.code
  after : Instance σ
  span : Span
  final : Machine
  located : ({ ready with globals }.region .readError errorAccessors).run evaluated =
    (.ok (after, span), final)
  region : TextRegion
  capacity : region.capacity = errorCapacity
  stack : Option (List Char)
  content : final.memory.read? span.start span.length =
    some (region.set (exceptionText (refusalText cause) stack)).content

namespace Uncaught

variable {inst : Instance σ} {source : String} {machine : Machine} {cause : Refusal}

/-- The refusal is in the record when the host has found the error text. -/
theorem recorded (uncaught : Uncaught inst source machine cause) :
    cause.message ∈ uncaught.final.state.run.refusals := by
  obtain ⟨_, world, dispatched⟩ := Bridge.Host.dispatch_of_refusal uncaught.refused
  have answered := uncaught.answers.refusals
  have grown := (Instance.region_records { uncaught.ready with globals := uncaught.globals }
    .readError errorAccessors).grows uncaught.evaluated
  rw [uncaught.finished, dispatched] at answered
  rw [uncaught.located] at grown
  exact grown.subset (answered.subset (by simp [Bridge.Run.record]))

/-- The failure that the host makes of the error text. -/
def failure (uncaught : Uncaught inst source machine cause) : Failure :=
  { readFailure uncaught.region uncaught.status.toInt32 (refusalText cause) uncaught.stack with
    logs := uncaught.final.state.run.log }

theorem failure_message (uncaught : Uncaught inst source machine cause) :
    uncaught.failure.message = (readFailure uncaught.region uncaught.status.toInt32
      (refusalText cause) uncaught.stack).message := by
  simp only [failure]

theorem outcome_eq (uncaught : Uncaught inst source machine cause) :
    ((inst.run source).run machine).1 =
      .error (.failed (uncaught.final.state.run.faultOf uncaught.failure)) := by
  have failed : uncaught.status.toInt32 ≠ Status.success.code := by
    rw [uncaught.failed]
    decide
  rw [Instance.run_finished uncaught.prepared uncaught.finished]
  exact Instance.conclude_failed failed uncaught.located uncaught.content

theorem message_occurs_iff (uncaught : Uncaught inst source machine cause) :
    (∃ message ∈ uncaught.final.state.run.refusals,
        message.toList <:+: uncaught.failure.message.toList) ↔
      HeardWhole cause ∨ ∃ message ∈ uncaught.final.state.run.refusals,
        message ≠ cause.message ∧ message.toList <:+: heard cause := by
  by_cases whole : HeardWhole cause
  · have start : refusalText cause <+: uncaught.failure.message.toList := by
      rw [failure_message]
      exact message_of_whole uncaught.capacity _ _ whole
    have within : cause.message.toList <:+: refusalText cause := by
      rw [refusalText_eq]
      exact List.infix_append_right
    constructor
    · intro _
      exact .inl whole
    · intro _
      exact ⟨cause.message, uncaught.recorded, within.trans start.isInfix⟩
  · have own := (Bridge.Host.dispatch_of_refusal uncaught.refused).1
    have message : uncaught.failure.message.toList = heard cause := by
      rw [failure_message]
      exact message_of_short uncaught.capacity _ _ whole
    obtain ⟨start, less⟩ := heard_short whole
    rw [message]
    constructor
    · -- The refusal's own message takes the whole text, so what occurs is another one's.
      rintro ⟨other, among, occurs⟩
      refine .inr ⟨other, among, ?_, occurs⟩
      rintro rfl
      exact message_not_in_less own start less occurs
    · rintro (heardWhole | ⟨other, among, _, occurs⟩)
      · exact absurd heardWhole whole
      · exact ⟨other, among, occurs⟩

/-- A run that does not catch a refusal ends with one of those that it recorded exactly when the
text of the error gets to the host whole, or when another message occurs in what the host hears of
it. Otherwise it ends as a plain failure of the script. -/
theorem refusal_told_iff (uncaught : Uncaught inst source machine cause) :
    (EndsRefused ((inst.run source).run machine).1 ↔
      HeardWhole cause ∨ ∃ message ∈ uncaught.final.state.run.refusals,
        message ≠ cause.message ∧ message.toList <:+: heard cause) ∧
    (EndsRefused ((inst.run source).run machine).1 ∨
      EndsFailed ((inst.run source).run machine).1) := by
  simp only [EndsRefused, EndsFailed, uncaught.outcome_eq, ← uncaught.message_occurs_iff,
    ← Bridge.Run.faultOf_refused_iff, Except.error.injEq, Stop.failed.injEq, true_and]
  rcases uncaught.final.state.run.faultOf_cases uncaught.failure with told | plain
  · exact .inl told
  · exact .inr ⟨_, plain⟩

end Uncaught

/-! ### A path that is taken for a stack -/

namespace MarkedPath

/-- An absolute path that holds the mark of a stack. -/
def path : String := "/x\nStack: y"

/-- The call of a script that reads it. -/
def payload : Bytes :=
  Json.toBytes (.object [("args", .array [.string path]), ("method", .string "fs.readText")])

/-- What a guest keeps of the error of this call. -/
def errorText : Bytes :=
  ((TextRegion.ofCapacity errorCapacity).set
    (exceptionText (refusalText (.absolutePath path)) none)).content

/-- A memory that starts with some bytes. -/
def memory (bytes : Bytes) : Memory := ⟨0x200000, fun place => bytes.getD place 0⟩

/-- Makes the call from the start of the memory, and then puts the error text there. -/
def activity : Activity Unit :=
  .call 0 (UInt32.ofNat payload.length) 0 0 fun _ =>
    .store (memory errorText).byteAt (.finish () 22)

/-- A guest for which every script does this. -/
def inst : Instance Unit where
  image := {
    pages := 32, maxPages := none, data := [], globals := (), start := none
    exports := [
      ("eval", .evaluator fun _ _ _ => activity),
      ("get_last_error_ptr", .getter fun _ => .finish () 0),
      ("get_last_error_len", .getter fun _ => .finish () (UInt32.ofNat errorText.length))] }
  around := ⟨⟨{}, ⟨⟨["box"], none⟩, .ofPolicy {} .offline, fun _ => {}⟩⟩, ⟨none, 0⟩, true⟩
  globals := ()

def machine : Machine := ⟨memory payload, ⟨{}, {}⟩⟩

theorem refused : inst.around.host.refusal? ⟨{}, {}⟩ payload = some (.absolutePath path) := by
  decide +kernel

theorem read_payload :
    (memory payload).read? 0 (lengthOf (UInt32.ofNat payload.length)) = some payload := by
  have length : lengthOf (UInt32.ofNat payload.length) = payload.length := by decide +kernel
  rw [length]
  exact Memory.read_start rfl (by decide +kernel)

theorem prepared : (inst.prepare "").run machine = (.ok (inst, activity), machine) := by
  have evaluator : inst.evaluator? = some fun _ _ _ => activity := rfl
  exact Instance.prepare_empty evaluator rfl rfl

/-- The host after the call. -/
def called : Machine := ⟨memory payload, (inst.around.host.dispatch ⟨{}, {}⟩ payload).2⟩

theorem hostCall_eq :
    machine.hostCall inst.around 0 (UInt32.ofNat payload.length) 0 0 = (.returned 0, called) := by
  obtain ⟨_, world, dispatched⟩ := Bridge.Host.dispatch_of_refusal refused
  have read : machine.memory.read? (0 : UInt32).toNat (lengthOf (UInt32.ofNat payload.length)) =
      some payload := read_payload
  have written : machine.memory.write? (0 : UInt32).toNat [] = some machine.memory :=
    Memory.write?_nil (by decide)
  have room : lengthOf 0 = 0 := by decide
  have reached : inst.around.exportsMemory = true := rfl
  have state : machine.state = ⟨{}, {}⟩ := rfl
  simp only [Machine.hostCall, reached, Bool.not_true, Bool.false_eq_true, ↓reduceIte, read, state,
    dispatched, room, List.take_zero, written, called]
  rfl

/-- The machine after the evaluation. -/
def evaluated : Machine :=
  { called with memory := { called.memory with byteAt := (memory errorText).byteAt } }

theorem finished : machine.run inst.around activity = (.finished () 22, evaluated) := by
  unfold activity
  simp only [Machine.run, hostCall_eq, evaluated]

theorem read_errorText : evaluated.memory.read? 0 errorText.length =
    some ((TextRegion.ofCapacity errorCapacity).set
      (exceptionText (refusalText (.absolutePath path)) none)).content := by
  have starts : evaluated.memory.byteAt = fun place => errorText.getD place 0 := by
    simp only [evaluated, memory]
  have fits : errorText.length ≤ evaluated.memory.size := by
    simp only [evaluated, called, memory]
    decide +kernel
  rw [← errorText]
  exact Memory.read_start starts fits

theorem located :
    (inst.region .readError errorAccessors).run evaluated =
      (.ok (inst, ⟨0, errorText.length⟩), evaluated) := by
  have start : (inst.access .readError errorAccessors.start).run evaluated =
      (.ok (inst, 0), evaluated) := rfl
  have length : (inst.access .readError errorAccessors.length).run evaluated =
      (.ok (inst, UInt32.ofNat errorText.length), evaluated) := rfl
  have positive : ¬ (UInt32.ofNat errorText.length).toInt32 < 0 := by decide +kernel
  have same : (UInt32.ofNat errorText.length).toNat = errorText.length := by decide +kernel
  rw [Instance.region_of_words start length positive, same]
  rfl

def uncaught : Uncaught inst "" machine (.absolutePath path) where
  ready := inst
  activity := activity
  started := machine
  prepared := prepared
  state := ⟨{}, {}⟩
  payload := payload
  answers := .here rfl read_payload
  refused := refused
  globals := ()
  status := 22
  evaluated := evaluated
  finished := finished
  failed := by decide
  after := inst
  span := ⟨0, errorText.length⟩
  final := evaluated
  located := located
  region := .ofCapacity errorCapacity
  capacity := TextRegion.capacity_ofCapacity _
  stack := none
  content := by
    dsimp only
    exact read_errorText

/-- The run fails as its script did, and not with the refusal. -/
theorem marked_refusal_untold : EndsFailed ((inst.run "").run machine).1 := by
  obtain ⟨told, plain⟩ := uncaught.refusal_told_iff
  refine plain.resolve_left fun refusal => ?_
  rcases told.mp refusal with whole | ⟨message, among, differs, _⟩
  · -- The path itself brings the mark into the text.
    have marked : Search.occursIn stackMark (refusalText (.absolutePath path)) = true := by decide
    exact whole.unmarked (Search.occursIn_iff.mp marked)
  · -- No other refusal was recorded.
    obtain ⟨_, world, dispatched⟩ := Bridge.Host.dispatch_of_refusal refused
    have record : uncaught.final.state.run.refusals = [(Refusal.absolutePath path).message] := by
      simp [uncaught, evaluated, called, dispatched, Bridge.Run.record]
    rw [record, List.mem_singleton] at among
    exact differs among

end MarkedPath

end ScriptSandbox.Guest
