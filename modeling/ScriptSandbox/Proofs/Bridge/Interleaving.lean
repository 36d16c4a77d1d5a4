import ScriptSandbox.Proofs.Bridge.Refusals
import ScriptSandbox.Proofs.Guest.Logging
import Mathlib.Logic.Function.Basic

/-!
# Runs side by side

Runs that share a host and its files take their steps in any order. Whether a call is refused, and
in which words, is decided without a look at any file, so that no run has a line or a refusal more
or less for what the others do in between.
-/
namespace ScriptSandbox

/-- The refusal that an outcome is. -/
def refusalOf? {α : Type} : Except Fault α → Option Refusal
  | .error (.refused cause) => some cause
  | _ => none

theorem Unrefused.refusalOf?_eq {α : Type} {outcome : Except Fault α}
    (unrefused : Unrefused outcome) : refusalOf? outcome = none := by
  unfold refusalOf?
  split
  next cause => exact absurd rfl (unrefused cause)
  next => rfl

/-! ### Operations on files -/

namespace Files.Boundary

variable {α : Type} {boundary : Boundary} {tree : Tree} {requested : String} {action : FileAction}
  {operation : Path → Except ScriptSandbox.Fault α × Tree}

/-- What an operation at a path is refused that the boundary lets through. -/
def ownRefusal? (boundary : Boundary) (action : FileAction) (path : Path) : Option Refusal :=
  if action = .delete ∧ path = boundary.root then some .rootDeletion else none

/-- What an operation on files is refused. No file has a part in it. -/
def refusal? (boundary : Boundary) (requested : String) (action : FileAction) : Option Refusal :=
  match (boundary.resolve requested action).outcome with
  | .error fault => refusalOf? (.error fault : Except ScriptSandbox.Fault Path)
  | .ok path => boundary.ownRefusal? action path

theorem perform_refusalOf?
    (own : ∀ path, refusalOf? (operation path).1 = boundary.ownRefusal? action path) :
    refusalOf? (boundary.perform tree requested action operation).outcome =
      boundary.refusal? requested action := by
  unfold perform refusal?
  split
  next fault asked resolved =>
    rw [resolved]
    cases fault <;> rfl
  next path asked resolved =>
    rw [resolved]
    exact own path

end Files.Boundary

namespace Bridge

theorem fileOutcome_refused? {α : Type} (toJson : α → Json) (effect : Files.Effect α) :
    (fileOutcome toJson effect).answer.refused? =
      (refusalOf? effect.outcome).map Refusal.message := by
  obtain ⟨outcome, asked, tree⟩ := effect
  cases outcome with
  | ok value => rfl
  | error fault => cases fault <;> rfl

theorem refused?_of_unrefused {outcome : Except Fault Json} (unrefused : Unrefused outcome) :
    (Answer.ofExcept outcome).refused? = none := by
  cases outcome with
  | ok value => rfl
  | error fault =>
    unfold Answer.refused? Answer.ofExcept
    split
    next cause same => exact absurd (congrArg _ (Answer.failed.inj same)) (unrefused cause)
    next => rfl

/-- What an operation on files is refused, whatever the files are. -/
theorem runFile_refused? (boundary : Files.Boundary) (system : Files.System) (files : Files.Tree)
    (action : FileAction) (call : Call) :
    (runFile boundary system files action call).answer.refused? =
      ((pathArg call action).toOption.bind (boundary.refusal? · action)).map Refusal.message := by
  unfold runFile
  split
  next fault named =>
    have unrefused : Unrefused (.error fault : Except Fault Json) := fun cause fails =>
      pathArg_unrefused call action cause (by rw [named, Except.error.inj fails])
    exact (refused?_of_unrefused unrefused).trans (by simp [named, Except.toOption])
  next requested named =>
    simp only [named, Except.toOption, Option.bind_some]
    cases action with
    | delete =>
      refine (fileOutcome_refused? _ _).trans
        (congrArg _ (Files.Boundary.perform_refusalOf? fun path => ?_))
      unfold Files.Boundary.ownRefusal?
      -- Only the root is kept from being deleted.
      split
      next root => simp [root, refusalOf?]
      next other =>
        rw [if_neg (by simpa using other)]
        exact (Files.Boundary.lift_unrefused _).refusalOf?_eq
    | readText | writeText | listDirectory | «exists» | createDirectory =>
      refine (fileOutcome_refused? _ _).trans
        (congrArg _ (Files.Boundary.perform_refusalOf? fun path => ?_))
      exact (Files.Boundary.lift_unrefused _).refusalOf?_eq

/-! ### Dispatch -/

theorem Builtin.run_refused?_congr (method : Builtin) (access : Access) (time : Nat) (call : Call)
    (left right : Files.Tree) :
    (method.run access time left call).answer.refused? =
      (method.run access time right call).answer.refused? := by
  cases method with
  | add | subtract | multiply | divide => rfl
  | file action => exact (runFile_refused? ..).trans (runFile_refused? ..).symm
  | http action => exact congrArg _ (runHttp_answer_congr ..)

/-- What a payload is refused is the same in every world. -/
theorem Host.refused?_congr (host : Host) (run : Run) (left right : World) (payload : Bytes) :
    host.refused? ⟨left, run⟩ payload = host.refused? ⟨right, run⟩ payload := by
  unfold Host.refused? Host.answer?
  cases host.read run.cancelled payload with
  | error => rfl
  | ok found =>
    obtain ⟨route, call⟩ := found
    cases route with
    | handler | log | tools => rfl
    | builtin method => exact method.run_refused?_congr host.access _ call left.files right.files

theorem conclude_cancelled (state : State) (answer : Answer) :
    (conclude state answer).2.run.cancelled = state.run.cancelled := by
  cases answer with
  | failed fault => cases fault <;> rfl
  | value | panicked | waiting => rfl

theorem Host.dispatch_cancelled (host : Host) (state : State) (payload : Bytes) :
    (host.dispatch state payload).2.run.cancelled = state.run.cancelled := by
  unfold Host.dispatch
  cases host.read state.run.cancelled payload with
  | error => rfl
  | ok found =>
    obtain ⟨route, call⟩ := found
    cases route <;> exact conclude_cancelled _ _

theorem conclude_calls (state : State) (answer : Answer) :
    (conclude state answer).2.run.calls = state.run.calls := by
  cases answer with
  | failed fault => cases fault <;> rfl
  | value | panicked | waiting => rfl

/-- A payload counts as the call of a built-in or not, in every world. -/
theorem Host.dispatch_calls_congr (host : Host) (run : Run) (left right : World) (payload : Bytes) :
    (host.dispatch ⟨left, run⟩ payload).2.run.calls =
      (host.dispatch ⟨right, run⟩ payload).2.run.calls := by
  unfold Host.dispatch
  cases host.read run.cancelled payload with
  | error => rfl
  | ok found =>
    obtain ⟨route, call⟩ := found
    cases route <;> simp [Host.perform, conclude_calls, Run.push]

/-- What a payload leaves of its run is the same in every world. -/
theorem Host.dispatch_run_congr (host : Host) (run : Run) (left right : World) (payload : Bytes) :
    (host.dispatch ⟨left, run⟩ payload).2.run = (host.dispatch ⟨right, run⟩ payload).2.run := by
  -- A line is told from the payload alone, a refusal from the payload and the policy.
  have log := (host.dispatch_log ⟨left, run⟩ payload).trans
    (host.dispatch_log ⟨right, run⟩ payload).symm
  have refusals : (host.dispatch ⟨left, run⟩ payload).2.run.refusals =
      (host.dispatch ⟨right, run⟩ payload).2.run.refusals := by
    rw [host.dispatch_record, host.dispatch_record, host.refused?_congr run left right]
  have cancelled := (host.dispatch_cancelled ⟨left, run⟩ payload).trans
    (host.dispatch_cancelled ⟨right, run⟩ payload).symm
  have calls := host.dispatch_calls_congr run left right payload
  generalize (host.dispatch ⟨left, run⟩ payload).2.run = first at log refusals cancelled calls
  generalize (host.dispatch ⟨right, run⟩ payload).2.run = second at log refusals cancelled calls
  cases first
  cases second
  simp_all

/-! ### Steps of several runs -/

/-- A step of a run: its guest sends a line to the log, or a payload to the host. -/
inductive Move where
  | log (line : Bytes)
  | call (payload : Bytes)

/-- The state after a step of a run. -/
def Host.move (host : Host) (state : State) : Move → State
  | .log line => { state with run := state.run.push (Utf8.toStringLossy line) }
  | .call payload => (host.dispatch state payload).2

/-- Runs on one world, each known by a name. -/
structure Runs (ι : Type) where
  world : World
  run : ι → Run

variable {ι : Type} [DecidableEq ι]

/-- A step of one of the runs. -/
def Host.turn (host : Host) (runs : Runs ι) (taken : ι × Move) : Runs ι :=
  let state := host.move ⟨runs.world, runs.run taken.1⟩ taken.2
  ⟨state.world, Function.update runs.run taken.1 state.run⟩

/-- The steps that one of the runs takes, in order. -/
def movesOf (name : ι) (turns : List (ι × Move)) : List Move :=
  (turns.filter (·.1 = name)).map Prod.snd

@[simp] theorem movesOf_cons_self (name : ι) (move : Move) (later : List (ι × Move)) :
    movesOf name ((name, move) :: later) = move :: movesOf name later := by
  simp [movesOf]

@[simp] theorem movesOf_cons_other {name other : ι} (differ : other ≠ name) (move : Move)
    (later : List (ι × Move)) : movesOf name ((other, move) :: later) = movesOf name later := by
  simp [movesOf, differ]

theorem Host.move_run_congr (host : Host) (run : Run) (left right : World) (move : Move) :
    (host.move ⟨left, run⟩ move).run = (host.move ⟨right, run⟩ move).run := by
  cases move with
  | log line => rfl
  | call payload => exact host.dispatch_run_congr run left right payload

theorem Host.turn_run_self (host : Host) (runs : Runs ι) (name : ι) (move : Move) (world : World) :
    (host.turn runs (name, move)).run name = (host.move ⟨world, runs.run name⟩ move).run :=
  (Function.update_self ..).trans (host.move_run_congr _ runs.world world move)

theorem Host.turn_run_other (host : Host) (runs : Runs ι) {name other : ι} (differ : other ≠ name)
    (move : Move) : (host.turn runs (other, move)).run name = runs.run name :=
  Function.update_of_ne differ.symm ..

/-- Runs that take their steps in any order, on files that all of them change, have the lines and
the refusals in the end that each of them has for its own steps alone, in whatever world. -/
theorem interleaved_runs_stay_apart (host : Host) (runs : Runs ι) (turns : List (ι × Move))
    (name : ι) (world : World) :
    (turns.foldl host.turn runs).run name =
      ((movesOf name turns).foldl host.move ⟨world, runs.run name⟩).run := by
  induction turns generalizing runs world with
  | nil => rfl
  | cons taken later ih =>
    obtain ⟨other, move⟩ := taken
    rw [List.foldl_cons]
    by_cases own : other = name
    · subst own
      rw [movesOf_cons_self, List.foldl_cons]
      -- The step leaves another world here than alone, which makes no difference later.
      rw [ih _ (host.move ⟨world, runs.run other⟩ move).world, host.turn_run_self runs other move world]
    · rw [movesOf_cons_other own, ih _ world, host.turn_run_other runs own]

end Bridge

end ScriptSandbox
