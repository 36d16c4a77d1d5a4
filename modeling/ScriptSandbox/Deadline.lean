import ScriptSandbox.Fault

/-!
# Deadlines

A job runs in a thread of its own while a caller waits for its outcome, at most up to a limit. The
thread finishes the job and then reports how it ended. A caller looks for a report first and at the
clock only where there is none; when the limit has elapsed by then, the caller gives the run up, and
answers after that. Thread, clock and caller go on in any order. After the answer nothing changes
it.
-/
namespace ScriptSandbox

/-- How a job ends: with an outcome, or with a panic that carries a payload. -/
inductive Finish (π α : Type) where
  | returned (outcome : Except Fault α)
  | panicked (payload : π)

def Finish.timedOut {π α : Type} (limit : Nat) : Finish π α := .returned (.error (.timedOut limit))

namespace Supervision

/-- How far the thread of a job is. -/
inductive Worker (π α : Type) where
  | working
  /-- The job has ended, which is not reported yet. -/
  | finished (finish : Finish π α)
  | gone

/-- What a caller finds when it looks for a report. -/
inductive Mailbox (π α : Type) where
  | empty
  | holding (finish : Finish π α)
  /-- The thread went without a report. A thread that catches the panic of its job never does. -/
  | abandoned

/-- How far the caller is. -/
inductive Stage (π α : Type) where
  | waiting
  /-- There was no report, so the next look is at the clock. -/
  | unreported (limit : Nat)
  | overdue (limit : Nat)
  | givenUp (limit : Nat)
  | answered (finish : Finish π α)

inductive Event (π α : Type) where
  | finished (finish : Finish π α)
  | reported
  | elapsed
  /-- The caller takes its next step. -/
  | turn

end Supervision

open Supervision in
/-- A caller who waits for a job. -/
structure Supervision (π α : Type) where
  /-- The time for the job in microseconds, if it is limited. -/
  limit : Option Nat
  worker : Worker π α := .working
  mailbox : Mailbox π α := .empty
  /-- Whether the limit has elapsed. -/
  elapsed : Bool := false
  /-- Whether the run was given up. -/
  cancelled : Bool := false
  stage : Stage π α := .waiting

namespace Supervision

variable {π α : Type}

def start (limit : Option Nat) : Supervision π α := { limit }

/-- The thread reports how its job ended, and goes. -/
def report (state : Supervision π α) : Supervision π α :=
  match state.worker with
  | .finished finish => { state with worker := .gone, mailbox := .holding finish }
  | .working | .gone => state

/-- The caller's next step. A poll is a look for a report and, where there is none, one at the
clock. -/
def turn (state : Supervision π α) : Supervision π α :=
  match state.stage with
  | .waiting =>
    match state.mailbox, state.limit with
    | .holding finish, _ => { state with stage := .answered finish }
    | .abandoned, _ => { state with stage := .answered (.returned (.error (.engine .unreported))) }
    | .empty, some limit => { state with stage := .unreported limit }
    | .empty, none => state
  | .unreported limit => { state with stage := if state.elapsed then .overdue limit else .waiting }
  | .overdue limit => { state with cancelled := true, stage := .givenUp limit }
  | .givenUp limit => { state with stage := .answered (.timedOut limit) }
  | .answered _ => state

/-- What an event changes. A job ends once, and is reported once. -/
def step (state : Supervision π α) : Event π α → Supervision π α
  | .finished finish =>
    match state.worker with
    | .working => { state with worker := .finished finish }
    | .finished _ | .gone => state
  | .reported => state.report
  | .elapsed => { state with elapsed := true }
  | .turn => state.turn

def run (state : Supervision π α) (events : List (Event π α)) : Supervision π α :=
  events.foldl step state

def answer? (state : Supervision π α) : Option (Finish π α) :=
  match state.stage with
  | .answered finish => some finish
  | _ => none

/-- What the caller of a job gets, where a job without an outcome goes on until the limit. None when
it waits for ever. -/
def settle (limit : Option Nat) (outcome : Option (Finish π α)) : Option (Finish π α) :=
  let events := match outcome with
    | some finish => [.finished finish, .reported, .turn]
    | none => [.elapsed, .turn, .turn, .turn, .turn]
  ((start limit).run events).answer?

end Supervision

end ScriptSandbox
