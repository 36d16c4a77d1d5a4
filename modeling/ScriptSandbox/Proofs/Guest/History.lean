import ScriptSandbox.Guest.Core
import ScriptSandbox.Proofs.Guest.TextRegion

/-!
# Evaluations that leave no trace

A guest never erases the bytes of earlier texts, and the test of its interpreter leaves a text in
the region for errors. But no call changes the capacity of a region, and an evaluation clears both
regions before it sets one of them. So what a host reads after an evaluation follows from the source
alone, whatever the guest did before.
-/
namespace ScriptSandbox.Guest

open Script (Report)

/-! ### Outcomes of evaluations -/

/-- What an evaluation comes to: without a source, the complaint about the pointer. -/
def Runner.outcome (runner : Runner) : Option Bytes → Except Report String
  | none => .error ⟨.nullInput, "Script pointer is null"⟩
  | some source => runner.evaluateCopy source

theorem Runner.status_ne_success {runner : Runner} {source : Option Bytes} {report : Report}
    (failed : runner.outcome source = .error report) : report.status ≠ .success := by
  cases source with
  | none =>
    cases failed
    simp
  | some source =>
    simp only [outcome, evaluateCopy] at failed
    split at failed
    next granted => exact Script.Interpreter.status_ne_success failed
    next refused =>
      cases failed
      simp

theorem Status.code_ne_zero {status : Status} (failure : status ≠ .success) : status.code ≠ 0 := by
  cases status <;> first | exact absurd rfl failure | decide

theorem Core.evaluate_eq (runner : Runner) (core : Core) (call : Call) :
    core.evaluate runner call = core.clear.keep (runner.outcome call.source?) := by
  unfold evaluate eval
  cases call.source? <;> rfl

/-! ### Answers -/

/-- What a host reads after a call. -/
structure Answer where
  code : Int32
  result : Bytes
  error : Bytes

def Core.read (core : Core) (code : Int32) : Answer :=
  ⟨code, core.result.content, core.error.content⟩

def Core.answer (runner : Runner) (core : Core) (visit : Visit) : Answer :=
  (core.serve runner visit).1.read (core.serve runner visit).2

/-- The regions of a guest have the capacities that they started with. -/
structure Core.Sized (core : Core) : Prop where
  result : core.result.capacity = resultCapacity
  error : core.error.capacity = errorCapacity

/-- The answer that goes with an outcome. -/
def Answer.ofOutcome : Except Report String → Answer
  | .ok text => ⟨0, TextRegion.fitting resultCapacity (Utf8.encode text.toList), []⟩
  | .error report =>
    ⟨report.status.code, [], TextRegion.fitting errorCapacity (Utf8.encode report.message.toList)⟩

namespace Core

variable {runner : Runner} {core : Core}

theorem Sized.initial : Sized {} :=
  ⟨TextRegion.capacity_ofCapacity _, TextRegion.capacity_ofCapacity _⟩

theorem Sized.keep (sized : core.Sized) (outcome : Except Report String) :
    (core.clear.keep outcome).1.Sized := by
  cases outcome with
  | ok text => exact ⟨by simp [Core.keep, clear, sized.result], sized.error⟩
  | error report => exact ⟨sized.result, by simp [Core.keep, clear, sized.error]⟩

theorem Sized.serve (sized : core.Sized) (visit : Visit) : (core.serve runner visit).1.Sized := by
  cases visit with
  | eval call | evalJs call =>
    simp only [Core.serve, evaluate_eq]
    exact sized.keep _
  | selfTest => exact ⟨sized.result, by simp [Core.serve, test, tell, sized.error]⟩

theorem Sized.after (history : List Visit) : (after runner history).Sized := by
  -- For any state of the regions to start from, since the first call leaves another one.
  have further (core : Core) (sized : core.Sized) :
      (history.foldl (fun core visit => (core.serve runner visit).1) core).Sized := by
    induction history generalizing core with
    | nil => exact sized
    | cons visit rest ih => exact ih _ (sized.serve visit)
  exact further {} .initial

/-- What the guest held before does not show. -/
theorem Sized.read_keep (sized : core.Sized) (outcome : Except Report String) :
    (core.clear.keep outcome).1.read (core.clear.keep outcome).2.code = .ofOutcome outcome := by
  cases outcome with
  | ok text =>
    simp [Core.keep, clear, read, Answer.ofOutcome, TextRegion.content_set, sized.result, Status.code]
  | error report =>
    simp [Core.keep, clear, read, Answer.ofOutcome, TextRegion.content_set, sized.error]

theorem answer_evaluation (sized : core.Sized) (call : Call) :
    ∀ visit ∈ [Visit.eval call, Visit.evalJs call],
      core.answer runner visit = .ofOutcome (runner.outcome call.source?) := by
  have same : core.answer runner (.eval call) = .ofOutcome (runner.outcome call.source?) := by
    rw [← sized.read_keep, ← evaluate_eq]
    rfl
  intro visit evaluation
  obtain rfl | rfl : visit = .eval call ∨ visit = .evalJs call := by simpa using evaluation
  · exact same
  · exact same

end Core

/-- After any history, what a host reads after an evaluation follows from the source of this
evaluation. Either the code is zero, the error text is empty and the result is what fits of the
text that the source gives; or the result is empty and the error text is what fits of the report. -/
theorem evaluations_leave_no_trace (runner : Runner) :
    ∃ answerTo : Option Bytes → Answer,
      ∀ (history : List Visit) (call : Call), ∀ visit ∈ [Visit.eval call, Visit.evalJs call],
        let answer := (Core.after runner history).answer runner visit
        answer = answerTo call.source? ∧
        (answer.code = 0 → answer.error = [] ∧
          ∃ text kept, runner.outcome call.source? = .ok text ∧
            TextRegion.Longest resultCapacity text.toList kept ∧ answer.result = Utf8.encode kept) ∧
        (answer.code ≠ 0 → answer.result = [] ∧
          ∃ report kept, runner.outcome call.source? = .error report ∧
            report.status.code = answer.code ∧
            TextRegion.Longest errorCapacity report.message.toList kept ∧
            answer.error = Utf8.encode kept) := by
  refine ⟨fun source => .ofOutcome (runner.outcome source), fun history call visit evaluation => ?_⟩
  simp only [Core.answer_evaluation (Core.Sized.after history) call visit evaluation, true_and]
  cases outcome : runner.outcome call.source? with
  | ok text =>
    obtain ⟨kept, longest, fitting⟩ := TextRegion.fitting_encode resultCapacity text.toList
    exact ⟨fun _ => ⟨rfl, text, kept, rfl, longest, fitting⟩, fun failed => absurd rfl failed⟩
  | error report =>
    obtain ⟨kept, longest, fitting⟩ := TextRegion.fitting_encode errorCapacity report.message.toList
    have failure := Status.code_ne_zero (Runner.status_ne_success outcome)
    exact ⟨fun zero => absurd zero failure, fun _ => ⟨rfl, report, kept, rfl, rfl, longest, fitting⟩⟩

end ScriptSandbox.Guest
