import Mathlib.Data.List.Induction
import ScriptSandbox.Deadline

/-!
# What a caller gets

Thread, clock and caller take their steps in any order. The answer is the end of the job, where it
had been reported when the caller looked; or it says that the limit has elapsed, where nothing had
been reported by then, and in that case alone the run was given up before. A report that comes
later changes nothing.
-/
namespace ScriptSandbox.Supervision

variable {π α : Type} {limit : Option Nat} {events : List (Event π α)} {state : Supervision π α}

/-! ### Events -/

theorem run_append (state : Supervision π α) (earlier later : List (Event π α)) :
    state.run (earlier ++ later) = (state.run earlier).run later :=
  List.foldl_append

/-- What no event changes, and what only some do. -/
structure Keeps (before after : Supervision π α) : Prop where
  limit : after.limit = before.limit
  worker : after.worker = before.worker
  mailbox : after.mailbox = before.mailbox
  elapsed : after.elapsed = before.elapsed

theorem turn_keeps (state : Supervision π α) : Keeps state state.turn := by
  obtain ⟨limit, worker, mailbox, elapsed, cancelled, stage⟩ := state
  cases stage with
  | waiting =>
    cases mailbox with
    | holding | abandoned => exact ⟨rfl, rfl, rfl, rfl⟩
    | empty => cases limit <;> exact ⟨rfl, rfl, rfl, rfl⟩
  | unreported | overdue | givenUp | answered => exact ⟨rfl, rfl, rfl, rfl⟩

theorem step_limit (state : Supervision π α) (event : Event π α) :
    (state.step event).limit = state.limit := by
  cases event with
  | elapsed => rfl
  | turn => exact state.turn_keeps.limit
  | finished | reported =>
    obtain ⟨limit, worker, mailbox, elapsed, cancelled, stage⟩ := state
    cases worker <;> rfl

theorem run_limit (state : Supervision π α) (events : List (Event π α)) :
    (state.run events).limit = state.limit := by
  induction events generalizing state with
  | nil => rfl
  | cons event events ih => exact (ih _).trans (state.step_limit event)

/-- Only a turn of the caller changes how far the caller is, and the token. -/
theorem step_caller (state : Supervision π α) {event : Event π α} (other : event ≠ .turn) :
    (state.step event).stage = state.stage ∧ (state.step event).cancelled = state.cancelled := by
  cases event with
  | elapsed => exact ⟨rfl, rfl⟩
  | turn => exact absurd rfl other
  | finished | reported =>
    obtain ⟨limit, worker, mailbox, elapsed, cancelled, stage⟩ := state
    cases worker <;> exact ⟨rfl, rfl⟩

/-! ### The thread of the job -/

def Event.finish? : Event π α → Option (Finish π α)
  | finished finish => some finish
  | reported | elapsed | turn => none

/-- How the job of these events ends. -/
def finishOf (events : List (Event π α)) : Option (Finish π α) := events.findSome? Event.finish?

theorem finishOf_append (earlier later : List (Event π α)) :
    finishOf (earlier ++ later) = (finishOf earlier).or (finishOf later) := by
  simp [finishOf, List.findSome?_append]

/-- How far a thread is, and what it has put into the mailbox, whose job ends in one way. -/
inductive Delivers : Option (Finish π α) → Worker π α → Mailbox π α → Prop where
  | working : Delivers none .working .empty
  | finished {finish : Finish π α} : Delivers (some finish) (.finished finish) .empty
  | gone {finish : Finish π α} : Delivers (some finish) .gone (.holding finish)

theorem Delivers.step {own : Option (Finish π α)} (delivers : Delivers own state.worker state.mailbox)
    (event : Event π α) :
    Delivers (own.or event.finish?) (state.step event).worker (state.step event).mailbox := by
  obtain ⟨limit, worker, mailbox, elapsed, cancelled, stage⟩ := state
  -- Only a working thread takes its job's end, and only a finished one reports.
  cases event with
  | finished finish =>
    cases delivers with
    | working => exact .finished
    | finished => exact .finished
    | gone => exact .gone
  | reported =>
    cases delivers with
    | working => exact .working
    | finished => exact .gone
    | gone => exact .gone
  | elapsed =>
    rw [Event.finish?, Option.or_none]
    exact delivers
  | turn =>
    have keeps := turn_keeps ⟨limit, worker, mailbox, elapsed, cancelled, stage⟩
    simpa [Event.finish?, Supervision.step, keeps.worker, keeps.mailbox] using delivers

theorem delivers_run (limit : Option Nat) (events : List (Event π α)) :
    Delivers (finishOf events) ((start limit).run events).worker
      ((start limit).run events).mailbox := by
  -- From the end, since what an event does depends on those before it.
  induction events using List.reverseRecOn with
  | nil => exact .working
  | append_singleton earlier event ih =>
    have single : finishOf [event] = event.finish? := by cases event <;> rfl
    rw [run_append, finishOf_append, single]
    exact ih.step event

theorem Delivers.own {own : Option (Finish π α)} {worker : Worker π α} {finish : Finish π α}
    (delivers : Delivers own worker (.holding finish)) : own = some finish := by
  cases delivers with
  | gone => rfl

/-- A thread does not go without a report. -/
theorem Delivers.not_abandoned {own : Option (Finish π α)} {worker : Worker π α}
    {mailbox : Mailbox π α} (delivers : Delivers own worker mailbox) : mailbox ≠ .abandoned := by
  cases delivers <;> simp

/-! ### Polls -/

/-- The end of the job had been reported when the caller looked. -/
def Collected (limit : Option Nat) (finish : Finish π α) (events : List (Event π α)) : Prop :=
  ∃ earlier later, events = earlier ++ .turn :: later ∧
    ((start limit).run earlier).stage = .waiting ∧
    ((start limit).run earlier).mailbox = .holding finish

/-- Nothing had been reported when the caller looked, and its next look is at the clock. -/
def FoundNothing (limit : Option Nat) (micros : Nat) (events : List (Event π α)) : Prop :=
  limit = some micros ∧ ∃ earlier between, events = earlier ++ .turn :: between ∧ .turn ∉ between ∧
    ((start limit).run earlier).stage = .waiting ∧ ((start limit).run earlier).mailbox = .empty

/-- Nothing had been reported when the caller looked, and the limit had elapsed when it looked at the
clock then. -/
def RanOut (limit : Option Nat) (micros : Nat) (events : List (Event π α)) : Prop :=
  ∃ earlier later, events = earlier ++ .turn :: later ∧ FoundNothing limit micros earlier ∧
    ((start limit).run earlier).elapsed = true

theorem Collected.append {finish : Finish π α} (collected : Collected limit finish events)
    (more : List (Event π α)) : Collected limit finish (events ++ more) := by
  obtain ⟨earlier, later, rfl, found⟩ := collected
  exact ⟨earlier, later ++ more, by simp, found⟩

theorem RanOut.append {micros : Nat} (out : RanOut limit micros events)
    (more : List (Event π α)) : RanOut limit micros (events ++ more) := by
  obtain ⟨earlier, later, rfl, found⟩ := out
  exact ⟨earlier, later ++ more, by simp, found⟩

theorem FoundNothing.append {micros : Nat} (found : FoundNothing limit micros events)
    {event : Event π α} (other : event ≠ .turn) : FoundNothing limit micros (events ++ [event]) := by
  obtain ⟨limited, earlier, between, rfl, unturned, looked⟩ := found
  refine ⟨limited, earlier, between ++ [event], by simp, ?_, looked⟩
  simpa [unturned] using other.symm

/-- How far the caller is and whether the run was given up, with what led to it. -/
inductive Explained (limit : Option Nat) (events : List (Event π α)) : Stage π α → Bool → Prop where
  | waiting : Explained limit events .waiting false
  | unreported {micros : Nat} (found : FoundNothing limit micros events) :
      Explained limit events (.unreported micros) false
  | overdue {micros : Nat} (out : RanOut limit micros events) :
      Explained limit events (.overdue micros) false
  | givenUp {micros : Nat} (out : RanOut limit micros events) :
      Explained limit events (.givenUp micros) true
  | collected {finish : Finish π α} (collected : Collected limit finish events) :
      Explained limit events (.answered finish) false
  | timedOut {micros : Nat} (out : RanOut limit micros events) :
      Explained limit events (.answered (.timedOut micros)) true

theorem Explained.skip {stage : Stage π α} {cancelled : Bool}
    (explained : Explained limit events stage cancelled) {event : Event π α} (other : event ≠ .turn) :
    Explained limit (events ++ [event]) stage cancelled := by
  cases explained with
  | waiting => exact .waiting
  | unreported found => exact .unreported (found.append other)
  | overdue out => exact .overdue (out.append _)
  | givenUp out => exact .givenUp (out.append _)
  | collected collected => exact .collected (collected.append _)
  | timedOut out => exact .timedOut (out.append _)

theorem Explained.turn (run : (start limit).run events = state)
    (explained : Explained limit events state.stage state.cancelled) :
    Explained limit (events ++ [.turn]) state.turn.stage state.turn.cancelled := by
  have limited : state.limit = limit := by rw [← run, run_limit, start]
  have kept : state.mailbox ≠ .abandoned := run ▸ (delivers_run limit events).not_abandoned
  obtain ⟨bound, worker, mailbox, elapsed, cancelled, stage⟩ := state
  obtain rfl : bound = limit := limited
  cases explained with
  | waiting =>
    cases mailbox with
    | holding finish => exact .collected ⟨events, [], rfl, by rw [run], by rw [run]⟩
    | abandoned => exact absurd rfl kept
    | empty =>
      cases bound with
      | none =>
        -- Without a limit the caller looks again and again.
        exact .waiting
      | some micros =>
        exact .unreported ⟨rfl, events, [], rfl, by simp, by rw [run], by rw [run]⟩
  | unreported found =>
    cases elapsed with
    | false =>
      -- Both looks were in vain, and the next poll starts with a look for a report.
      exact .waiting
    | true => exact .overdue ⟨events, [], rfl, found, by rw [run]⟩
  | overdue out => exact .givenUp (out.append _)
  | givenUp out => exact .timedOut (out.append _)
  | collected collected => exact .collected (collected.append _)
  | timedOut out => exact .timedOut (out.append _)

theorem explained_run (limit : Option Nat) (events : List (Event π α)) :
    Explained limit events ((start limit).run events).stage
      ((start limit).run events).cancelled := by
  induction events using List.reverseRecOn with
  | nil => exact .waiting
  | append_singleton earlier event ih =>
    rw [run_append]
    -- The caller's own steps are explained one by one; no other event moves it.
    by_cases taken : event = .turn
    · subst taken
      exact ih.turn rfl
    · obtain ⟨stage, cancelled⟩ := ((start limit).run earlier).step_caller taken
      show Explained limit _ (((start limit).run earlier).step event).stage
        (((start limit).run earlier).step event).cancelled
      rw [stage, cancelled]
      exact ih.skip taken

/-! ### Answers -/

theorem answer?_eq_some_iff {answer : Finish π α} :
    state.answer? = some answer ↔ state.stage = .answered answer := by
  cases stage : state.stage <;> simp [answer?, stage]

/-- After an answer nothing changes it, nor the token. -/
theorem answered_run {answer : Finish π α} (answered : state.stage = .answered answer)
    (later : List (Event π α)) :
    (state.run later).stage = .answered answer ∧ (state.run later).cancelled = state.cancelled := by
  induction later generalizing state with
  | nil => exact ⟨answered, rfl⟩
  | cons event later ih =>
    -- A caller with an answer takes no further turn, and the other events do not touch it.
    have kept : (state.step event).stage = state.stage ∧
        (state.step event).cancelled = state.cancelled := by
      by_cases taken : event = .turn
      · subst taken
        have still : state.turn = state := by rw [turn, answered]
        exact ⟨congrArg stage still, congrArg cancelled still⟩
      · exact state.step_caller taken
    rw [← kept.2]
    exact ih (kept.1.trans answered)

theorem turn_of_holding {finish : Finish π α} (waiting : state.stage = .waiting)
    (held : state.mailbox = .holding finish) :
    state.turn.stage = .answered finish ∧ state.turn.cancelled = state.cancelled := by
  obtain ⟨bound, worker, mailbox, elapsed, cancelled, stage⟩ := state
  obtain rfl : stage = .waiting := waiting
  obtain rfl : mailbox = .holding finish := held
  exact ⟨rfl, rfl⟩

theorem Explained.uncancelled {cancelled : Bool}
    (explained : Explained limit events .waiting cancelled) : cancelled = false := by
  cases explained with
  | waiting => rfl

/-- What had been reported when the caller looked is the answer. -/
theorem Collected.answered {finish : Finish π α} (collected : Collected limit finish events) :
    ((start limit).run events).stage = .answered finish ∧
      ((start limit).run events).cancelled = false := by
  obtain ⟨earlier, later, rfl, waiting, held⟩ := collected
  have uncancelled := (waiting ▸ explained_run limit earlier).uncancelled
  obtain ⟨answered, same⟩ := turn_of_holding waiting held
  obtain ⟨final, kept⟩ := answered_run answered later
  rw [run_append]
  exact ⟨final, kept.trans (same.trans uncancelled)⟩

theorem Collected.own {finish : Finish π α} (collected : Collected limit finish events) :
    finishOf events = some finish := by
  obtain ⟨earlier, later, rfl, _, held⟩ := collected
  have own : finishOf earlier = some finish := (held ▸ delivers_run limit earlier).own
  rw [finishOf_append, own, Option.some_or]

/-! ### Limits -/

/-- The caller answers with the limit, or is about to, and the run is given up before. -/
inductive Late (micros : Nat) : Stage π α → Bool → Prop where
  | overdue : Late micros (.overdue micros) false
  | givenUp : Late micros (.givenUp micros) true
  | answered : Late micros (.answered (.timedOut micros)) true

theorem turn_of_empty {micros : Nat} (limited : state.limit = some micros)
    (waiting : state.stage = .waiting) (empty : state.mailbox = .empty) :
    state.turn.stage = .unreported micros ∧ state.turn.cancelled = state.cancelled := by
  obtain ⟨bound, worker, mailbox, elapsed, cancelled, stage⟩ := state
  obtain rfl : bound = some micros := limited
  obtain rfl : stage = .waiting := waiting
  obtain rfl : mailbox = .empty := empty
  exact ⟨rfl, rfl⟩

theorem turn_of_elapsed {micros : Nat} (unreported : state.stage = .unreported micros)
    (elapsed : state.elapsed = true) :
    state.turn.stage = .overdue micros ∧ state.turn.cancelled = state.cancelled := by
  obtain ⟨bound, worker, mailbox, clock, cancelled, stage⟩ := state
  obtain rfl : stage = .unreported micros := unreported
  obtain rfl : clock = true := elapsed
  exact ⟨rfl, rfl⟩

/-- While the caller takes no turn, it stays where it is. -/
theorem run_caller (state : Supervision π α) {later : List (Event π α)} (unturned : .turn ∉ later) :
    (state.run later).stage = state.stage ∧ (state.run later).cancelled = state.cancelled := by
  induction later generalizing state with
  | nil => exact ⟨rfl, rfl⟩
  | cons event later ih =>
    obtain ⟨other, others⟩ := not_or.mp (mt List.mem_cons.mpr unturned)
    obtain ⟨stage, cancelled⟩ := state.step_caller (Ne.symm other)
    obtain ⟨further, kept⟩ := ih (state.step event) others
    exact ⟨further.trans stage, kept.trans cancelled⟩

theorem FoundNothing.unreported {micros : Nat} (found : FoundNothing limit micros events) :
    ((start limit).run events).stage = .unreported micros ∧
      ((start limit).run events).cancelled = false := by
  obtain ⟨rfl, earlier, between, rfl, unturned, waiting, empty⟩ := found
  have uncancelled := (waiting ▸ explained_run (some micros) earlier).uncancelled
  obtain ⟨stage, same⟩ := turn_of_empty (run_limit _ earlier) waiting empty
  obtain ⟨still, kept⟩ := run_caller ((start (some micros)).run earlier).turn unturned
  rw [run_append]
  exact ⟨still.trans stage, kept.trans (same.trans uncancelled)⟩

theorem Late.step {micros : Nat} (late : Late micros state.stage state.cancelled)
    (event : Event π α) : Late micros (state.step event).stage (state.step event).cancelled := by
  by_cases taken : event = .turn
  · subst taken
    obtain ⟨bound, worker, mailbox, elapsed, cancelled, stage⟩ := state
    cases late with
    | overdue => exact .givenUp
    | givenUp => exact .answered
    | answered => exact .answered
  · obtain ⟨stage, cancelled⟩ := state.step_caller taken
    rwa [stage, cancelled]

theorem Late.run {micros : Nat} (late : Late micros state.stage state.cancelled)
    (later : List (Event π α)) : Late micros (state.run later).stage (state.run later).cancelled := by
  induction later generalizing state with
  | nil => exact late
  | cons event later ih => exact ih (late.step event)

theorem RanOut.late {micros : Nat} (out : RanOut limit micros events) :
    Late micros ((start limit).run events).stage ((start limit).run events).cancelled := by
  obtain ⟨earlier, later, rfl, found, elapsed⟩ := out
  obtain ⟨unreported, uncancelled⟩ := found.unreported
  obtain ⟨stage, same⟩ := turn_of_elapsed unreported elapsed
  have late : Late micros ((start limit).run earlier).turn.stage
      ((start limit).run earlier).turn.cancelled := by
    rw [stage, same, uncancelled]
    exact .overdue
  rw [run_append]
  exact late.run later

theorem ranOut_iff_late {micros : Nat} : RanOut limit micros events ↔
    Late micros ((start limit).run events).stage ((start limit).run events).cancelled := by
  refine ⟨RanOut.late, fun late => ?_⟩
  have explained := explained_run limit events
  generalize ((start limit).run events).stage = stage at late explained
  generalize ((start limit).run events).cancelled = cancelled at late explained
  cases late with
  | overdue =>
    cases explained with
    | overdue out => exact out
  | givenUp =>
    cases explained with
    | givenUp out => exact out
  | answered =>
    cases explained with
    | timedOut out => exact out

/-! ### Progress -/

/-- Something awaits the caller: a report, or an elapsed limit. -/
def Due (state : Supervision π α) : Prop :=
  state.mailbox ≠ .empty ∨ state.limit ≠ none ∧ state.elapsed = true

/-- So many turns may be left until the answer. -/
def turnsLeft (state : Supervision π α) : Nat :=
  match state.stage with
  | .waiting => match state.mailbox with
    | .empty => 4
    | .holding _ | .abandoned => 1
  | .unreported _ => 3
  | .overdue _ => 2
  | .givenUp _ => 1
  | .answered _ => 0

theorem turnsLeft_eq_zero_iff : state.turnsLeft = 0 ↔ ∃ answer, state.answer? = some answer := by
  obtain ⟨bound, worker, mailbox, elapsed, cancelled, stage⟩ := state
  cases stage <;> cases mailbox <;> simp [turnsLeft, answer?]

theorem turnsLeft_le (state : Supervision π α) : state.turnsLeft ≤ 4 := by
  obtain ⟨bound, worker, mailbox, elapsed, cancelled, stage⟩ := state
  cases stage <;> cases mailbox <;> simp [turnsLeft]

theorem Due.step (due : state.Due) (event : Event π α) : (state.step event).Due := by
  cases event with
  | elapsed => exact due.imp id fun ⟨limited, _⟩ => ⟨limited, rfl⟩
  | turn =>
    have keeps := state.turn_keeps
    show state.turn.Due
    rwa [Due, keeps.mailbox, keeps.limit, keeps.elapsed]
  | finished finish =>
    obtain ⟨bound, worker, mailbox, elapsed, cancelled, stage⟩ := state
    cases worker <;> exact due
  | reported =>
    obtain ⟨bound, worker, mailbox, elapsed, cancelled, stage⟩ := state
    cases worker with
    | finished finish => exact .inl (by simp [Supervision.step, report])
    | working | gone => exact due

theorem turnsLeft_turn (due : state.Due) : state.turn.turnsLeft ≤ state.turnsLeft - 1 := by
  obtain ⟨bound, worker, mailbox, elapsed, cancelled, stage⟩ := state
  cases stage with
  | waiting =>
    cases mailbox with
    | holding | abandoned => exact Nat.le_refl _
    | empty =>
      cases bound with
      | none => simp [Due] at due
      | some limit => exact Nat.le_refl _
  | unreported limit =>
    cases elapsed with
    | true => exact Nat.le_refl _
    | false =>
      -- Without a report the limit has elapsed.
      cases mailbox with
      | empty => simp [Due] at due
      | holding | abandoned => exact Nat.le_succ _
  | overdue | givenUp | answered => exact Nat.le_refl _

theorem turnsLeft_step (state : Supervision π α) {event : Event π α} (other : event ≠ .turn) :
    (state.step event).turnsLeft ≤ state.turnsLeft := by
  obtain ⟨bound, worker, mailbox, elapsed, cancelled, stage⟩ := state
  cases event with
  | turn => exact absurd rfl other
  | elapsed => exact Nat.le_refl _
  | finished finish => cases worker <;> exact Nat.le_refl _
  | reported =>
    cases worker with
    | working | gone => exact Nat.le_refl _
    | finished finish => cases stage <;> cases mailbox <;> simp [Supervision.step, report, turnsLeft]

def Event.isTurn : Event π α → Bool
  | turn => true
  | finished _ | reported | elapsed => false

theorem turnsLeft_run (due : state.Due) (later : List (Event π α)) :
    (state.run later).turnsLeft ≤ state.turnsLeft - later.countP Event.isTurn := by
  induction later generalizing state with
  | nil => exact Nat.le_refl _
  | cons event later ih =>
    -- What is due stays so, and from then on each turn lowers the measure.
    have rest := ih (due.step event)
    show ((state.step event).run later).turnsLeft ≤ _
    by_cases taken : event = .turn
    · subst taken
      have fewer : (state.step .turn).turnsLeft ≤ state.turnsLeft - 1 := turnsLeft_turn due
      rw [List.countP_cons_of_pos rfl]
      omega
    · have noMore := state.turnsLeft_step taken
      have uncounted : ¬ event.isTurn = true := by
        cases event with
        | turn => exact absurd rfl taken
        | finished | reported | elapsed => simp [Event.isTurn]
      rw [List.countP_cons_of_neg uncounted]
      omega

/-! ### What a caller gets -/

/-- A report and an elapsed limit at one poll: the report counts. -/
example : ((start (some 5) : Supervision Nat Unit).run
    [.finished (.panicked 0), .reported, .elapsed, .turn]).answer? = some (.panicked 0) := rfl

/-- Whatever the order of events, the answer is one that `settle` gives: for the end of the job, or
for a job without an end where the run was given up. -/
theorem settle_of_answer {answer : Finish π α}
    (answered : ((start limit).run events).answer? = some answer) :
    settle limit (if ((start limit).run events).cancelled then none else finishOf events) =
      some answer := by
  have explained := explained_run limit events
  rw [answer?_eq_some_iff.mp answered] at explained
  generalize ((start limit).run events).cancelled = cancelled at explained ⊢
  cases explained with
  | collected collected =>
    rw [if_neg Bool.false_ne_true, collected.own]
    rfl
  | timedOut out =>
    -- Only a limit that is set runs out.
    obtain ⟨earlier, later, same, ⟨rfl, looked⟩, elapsed⟩ := out
    rfl

end ScriptSandbox.Supervision
