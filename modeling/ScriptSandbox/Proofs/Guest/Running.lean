import ScriptSandbox.Guest.Exchange
import ScriptSandbox.Proofs.Bridge.Refusals
import ScriptSandbox.Proofs.Guest.HostCall
import ScriptSandbox.Proofs.Guest.Session

/-!
# What a run keeps of its guest's calls

While a guest runs, its host serves calls, and the messages of those that it refuses come to the
record, in order. A refusal of a call made on the way is still there at the end.
-/
namespace ScriptSandbox.Guest

open Bridge (Served refusals)

variable {σ : Type}

/-! ### Activities -/

namespace Machine

/-- An activity, started on a machine, comes to a call whose payload the host answers in a state. -/
inductive Answers (around : Surroundings) :
    Activity σ → Machine → Bridge.State → Bytes → Prop where
  | here {input inputLength output room : UInt32} {next : Int32 → Activity σ} {machine : Machine}
      {payload : Bytes} (reached : around.exportsMemory = true)
      (read : machine.memory.read? input.toNat (lengthOf inputLength) = some payload) :
      Answers around (.call input inputLength output room next) machine machine.state payload
  | later {input inputLength output room : UInt32} {next : Int32 → Activity σ}
      {machine after : Machine} {code : Int32} {state : Bridge.State} {payload : Bytes}
      (returned : machine.hostCall around input inputLength output room = (.returned code, after))
      (further : Answers around (next code) after state payload) :
      Answers around (.call input inputLength output room next) machine state payload
  | inspect {next : Memory → Activity σ} {machine : Machine} {state : Bridge.State}
      {payload : Bytes} (further : Answers around (next machine.memory) machine state payload) :
      Answers around (.inspect next) machine state payload
  | store {byteAt : Nat → UInt8} {next : Activity σ} {machine : Machine} {state : Bridge.State}
      {payload : Bytes}
      (further : Answers around next { machine with memory := { machine.memory with byteAt } }
        state payload) :
      Answers around (.store byteAt next) machine state payload
  | grown {pages : UInt32} {next : UInt32 → Activity σ} {machine : Machine} {memory : Memory}
      {state : Bridge.State} {payload : Bytes}
      (allowed : machine.memory.grow? around.limits pages.toNat = some memory)
      (further : Answers around (next (UInt32.ofNat machine.memory.pages)) { machine with memory }
        state payload) :
      Answers around (.grow pages next) machine state payload
  | notGrown {pages : UInt32} {next : UInt32 → Activity σ} {machine : Machine}
      {state : Bridge.State} {payload : Bytes}
      (denied : machine.memory.grow? around.limits pages.toNat = none)
      (further : Answers around (next (-1 : Int32).toUInt32) machine state payload) :
      Answers around (.grow pages next) machine state payload
  | log {start length : UInt32} {next : Activity σ} {machine after : Machine}
      {state : Bridge.State} {payload : Bytes}
      (logged : machine.hostLog? around start length = some after)
      (further : Answers around next after state payload) :
      Answers around (.log start length next) machine state payload

theorem hostLog_refusals {around : Surroundings} {machine after : Machine} {start length : UInt32}
    (logged : machine.hostLog? around start length = some after) :
    after.state.run.refusals = machine.state.run.refusals := by
  obtain ⟨_, rfl⟩ := hostLog?_eq_some_iff.mp logged
  rfl

/-- The call of the host that some words make, when their request can be read. -/
def served? (around : Surroundings) (machine : Machine) (input inputLength : UInt32) :
    Option Served :=
  (machine.heard? around input inputLength).map (⟨around.host, machine.state, ·⟩)

/-- The calls that the host serves while a guest's function runs, in order. -/
def served (around : Surroundings) : Activity σ → Machine → List Served
  | .finish .., _ | .trap, _ => []
  | .inspect next, machine => served around (next machine.memory) machine
  | .store byteAt next, machine =>
    served around next { machine with memory := { machine.memory with byteAt } }
  | .grow pages next, machine =>
    match machine.memory.grow? around.limits pages.toNat with
    | some memory =>
      served around (next (UInt32.ofNat machine.memory.pages)) { machine with memory }
    | none => served around (next (-1 : Int32).toUInt32) machine
  | .call input inputLength output room next, machine =>
    (machine.served? around input inputLength).toList ++
      match machine.hostCall around input inputLength output room with
      | (.returned code, after) => served around (next code) after
      | _ => []
  | .log start length next, machine =>
    match machine.hostLog? around start length with
    | some after => served around next after
    | none => []

theorem hostCall_record (around : Surroundings) (machine : Machine)
    (input inputLength output room : UInt32) :
    (machine.hostCall around input inputLength output room).2.state.run.refusals =
      machine.state.run.refusals ++
        refusals (machine.served? around input inputLength).toList := by
  by_cases readable : machine.Readable around input inputLength
  · rw [hostCall_state readable, Bridge.Host.dispatch_record, served?, heard?_of_readable readable]
    cases refused : around.host.refused? machine.state (machine.request input inputLength) <;>
      simp [refusals, Served.refused?, refused]
  · rw [hostCall_unread readable, served?, heard?_of_unread readable]
    exact (List.append_nil _).symm

/-- The run of a guest's function records the refusals among its calls, in order. -/
theorem run_record (around : Surroundings) (activity : Activity σ) (machine : Machine) :
    (machine.run around activity).2.state.run.refusals =
      machine.state.run.refusals ++ refusals (machine.served around activity) := by
  induction activity generalizing machine with
  | finish | trap => exact (List.append_nil _).symm
  | inspect next ih => exact ih _ _
  | store byteAt next ih => exact ih { machine with memory := { machine.memory with byteAt } }
  | grow pages next ih =>
    cases grown : machine.memory.grow? around.limits pages.toNat with
    | some memory => simpa [run, served, grown] using ih _ { machine with memory }
    | none => simpa [run, served, grown] using ih _ machine
  | call input inputLength output room next ih =>
    have called := hostCall_record around machine input inputLength output room
    rcases ended : machine.hostCall around input inputLength output room with ⟨ending, after⟩
    rw [ended] at called
    cases ending with
    | returned code =>
      have further := ih code after
      rw [called] at further
      simpa [run, served, ended, refusals] using further
    | panicked | waiting => simpa [run, served, ended] using called
  | log start length next ih =>
    cases ended : machine.hostLog? around start length with
    | some after =>
      have further := ih after
      rw [hostLog_refusals ended] at further
      simpa [run, served, ended] using further
    | none => simp [run, served, ended, refusals]

/-- What the record held after an answer on the way, it holds at the end. -/
theorem Answers.refusals {around : Surroundings} {activity : Activity σ} {machine : Machine}
    {state : Bridge.State} {payload : Bytes}
    (answers : Answers around activity machine state payload) :
    (around.host.dispatch state payload).2.run.refusals <+:
      (machine.run around activity).2.state.run.refusals := by
  induction answers with
  | @here input inputLength output room next machine payload reached read =>
    -- The answer is in the record right after its own call, and what follows only adds to it.
    obtain ⟨inside, rfl⟩ := Memory.read?_eq_some_iff.mp read
    have readable : machine.Readable around input inputLength := ⟨reached, inside⟩
    change (around.host.dispatch machine.state (machine.request input inputLength)).2.run.refusals
      <+: _
    rw [← hostCall_state readable output room]
    unfold run
    split
    next returned =>
      rw [returned, run_record]
      exact List.prefix_append _ _
    next ended => simp [ended]
    next ended => simp [ended]
  | later returned _ ih => simpa [run, returned] using ih
  | inspect _ ih => exact ih
  | store _ ih => exact ih
  | grown allowed _ ih => simpa [run, allowed] using ih
  | notGrown denied _ ih => simpa [run, denied] using ih
  | log logged _ ih => simpa [run, logged] using ih

end Machine

/-! ### Calls of a session -/

namespace Session

variable {α β : Type}

/-- The calls of a session and of what comes after it. -/
def callsThen (session : Session α) (calls : Machine → List Served)
    (later : α → Machine → List Served) (machine : Machine) : List Served :=
  calls machine ++
    match session.run machine with
    | (.ok value, after) => later value after
    | (.error _, _) => []

/-- A session records the refusals among some calls, and nothing else. -/
structure Records (session : Session α) (calls : Machine → List Served) :
    Prop where
  record : ∀ machine, (session.run machine).2.state.run.refusals =
    machine.state.run.refusals ++ refusals (calls machine)

variable {session : Session α} {calls : Machine → List Served}

theorem Records.bind {next : α → Session β} {later : α → Machine → List Served}
    (first : session.Records calls)
    (further : ∀ value, (next value).Records (later value)) :
    (session >>= next).Records (session.callsThen calls later) := by
  constructor
  intro machine
  have before := first.record machine
  rw [run_bind]
  unfold callsThen
  rcases ended : session.run machine with ⟨_ | value, after⟩
  · rw [ended] at before
    simpa using before
  · rw [ended] at before
    have both := (further value).record after
    rw [before] at both
    simpa using both

theorem Records.bind_quiet {next : α → Session β} (first : session.Records calls)
    (further : ∀ value, (next value).Records fun _ => []) :
    (session >>= next).Records calls := by
  have both := first.bind further
  have nothing : session.callsThen calls (fun _ _ => []) = calls := by
    funext machine
    unfold callsThen
    split <;> exact List.append_nil _
  rwa [nothing] at both

theorem Records.grows (recorded : session.Records calls) (machine : Machine) :
    machine.state.run.refusals <+: (session.run machine).2.state.run.refusals := by
  rw [recorded.record]
  exact List.prefix_append _ _

theorem records_of_silent
    (same : ∀ machine, (session.run machine).2.state.run.refusals = machine.state.run.refusals) :
    session.Records fun _ => [] :=
  ⟨fun machine => by rw [same]; exact (List.append_nil _).symm⟩

theorem pure_records (value : α) : (pure value : Session α).Records fun _ => [] :=
  records_of_silent fun _ => rfl

theorem Records.map (first : session.Records calls) (change : α → β) :
    (change <$> session).Records calls := by
  rw [map_eq_pure_bind]
  exact first.bind_quiet fun _ => pure_records _

theorem get_records : (get : Session Machine).Records fun _ => [] :=
  records_of_silent fun _ => rfl

theorem fail_records (fault : Fault) : (fail fault : Session α).Records fun _ => [] :=
  records_of_silent fun _ => rfl

theorem call_records (around : Surroundings) (trapped : Fault) (activity : Activity σ) :
    (call around trapped activity).Records (Machine.served around activity) := by
  constructor
  intro machine
  rw [← machine.run_record around activity, call_run]
  rcases machine.run around activity with ⟨ending, after⟩
  cases ending <;> rfl

end Session

/-! ### Runs -/

namespace Instance

variable (inst : Instance σ) (step : ExchangeStep) (names : Accessors)

def accessCalls (name : String) : Machine → List Served :=
  match inst.image.export? name with
  | some (.getter body) => Machine.served inst.around (body inst.globals)
  | _ => fun _ => []

def regionCalls : Machine → List Served :=
  (inst.access step names.start).callsThen (inst.accessCalls names.start) fun (inst, _) =>
    inst.accessCalls names.length

theorem access_records (name : String) :
    (inst.access step name).Records (inst.accessCalls name) := by
  unfold access accessCalls
  cases inst.image.export? name with
  | none => exact Session.fail_records _
  | some found =>
    cases found with
    | getter body =>
      exact (Session.call_records _ _ _).bind_quiet fun _ => Session.pure_records _
    | memory | action | evaluator | otherFunction => exact Session.fail_records _

theorem region_records :
    (inst.region step names).Records (inst.regionCalls step names) := by
  unfold region regionCalls
  refine (access_records _ _ _).bind fun (inst, _) => ?_
  refine (access_records _ _ _).bind_quiet fun (inst, _) => ?_
  dsimp only
  split
  · exact (Session.fail_records _).bind_quiet fun _ => Session.pure_records _
  · exact Session.pure_records _

/-- Where the script region is said to lie. -/
def locate (inst : Instance σ) : Session (Instance σ × Span) :=
  if inst.image.hasFunction scriptAccessors.start &&
      inst.image.hasFunction scriptAccessors.length then
    inst.region .locateScript scriptAccessors
  else pure (inst, legacyRegion)

/-- Refuses a region outside the memory. -/
def within (found : Instance σ × Span) : Session (Instance σ × Span) := do
  if !(← get).memory.holds found.2.start found.2.length then
    Session.fail (.exchange .locateScript (.scriptRegionOutside found.2.start found.2.length))
  else return found

theorem scriptRegion_eq (inst : Instance σ) : inst.scriptRegion = inst.locate >>= within := by
  unfold scriptRegion locate within
  split <;> rfl

/-- Puts bytes at the start of a span, if they end within the memory. -/
def put (span : Span) (bytes : Bytes) : Session Unit := do
  match (← get).memory.write? span.start bytes with
  | some memory => modify fun machine => { machine with memory }
  | none => Session.fail (.exchange .writeScript .targetOutside)

theorem writeScript_eq (span : Span) (script : Bytes) :
    writeScript span script =
      if span.length < script.length then
        Session.fail (.scriptTooLarge script.length span.length)
      else put span script := by
  unfold writeScript put
  split <;> rfl

/-- An empty script is prepared without a change to the memory, by a guest that has no accessors for
the script region. -/
theorem prepare_empty {inst : Instance σ} {machine : Machine}
    {eval : (start length : UInt32) → σ → Activity σ} (evaluator : inst.evaluator? = some eval)
    (legacy : inst.image.hasFunction scriptAccessors.start = false)
    (room : machine.memory.holds legacyRegion.start legacyRegion.length = true) :
    (inst.prepare "").run machine =
      (.ok (inst, eval (UInt32.ofNat legacyRegion.start) 0 inst.globals), machine) := by
  have region : inst.scriptRegion.run machine = (.ok (inst, legacyRegion), machine) := by
    have located : inst.locate.run machine = (.ok (inst, legacyRegion), machine) := by
      rw [locate, legacy]
      rfl
    rw [scriptRegion_eq, Session.run_bind, located]
    dsimp only
    rw [within, Session.run_bind, Session.get_run]
    dsimp only
    rw [room]
    rfl
  have written : (writeScript legacyRegion []).run machine = (.ok (), machine) := by
    have start : legacyRegion.start ≤ machine.memory.size := by
      simp only [Memory.holds, decide_eq_true_eq] at room
      omega
    have kept : machine.memory.write? legacyRegion.start [] = some machine.memory :=
      Memory.write?_nil start
    simp only [writeScript, List.length_nil, Nat.not_lt_zero, ↓reduceIte]
    rw [Session.run_bind, Session.get_run]
    simp only [kept]
    rfl
  unfold prepare
  rw [evaluator]
  dsimp only
  rw [Session.run_bind, region]
  dsimp only
  rw [Session.run_bind, show Utf8.ofString "" = [] by decide, written]
  rfl

theorem run_finished {inst ready : Instance σ} {source : String}
    {machine started evaluated : Machine}
    {activity : Activity σ} {globals : σ} {status : UInt32}
    (prepared : (inst.prepare source).run machine = (.ok (ready, activity), started))
    (finished : started.run ready.around activity = (.finished globals status, evaluated)) :
    (inst.run source).run machine = ({ ready with globals }.conclude status).run evaluated := by
  have called : (Session.call ready.around (.engine .evaluation) activity).run started =
      (.ok (globals, status), evaluated) := by
    rw [Session.call_run, finished]
  unfold run
  rw [Session.run_bind, prepared]
  simp only
  rw [Session.run_bind, called]

/-- Accessors that give two words without further ado show the span that these describe. -/
theorem region_of_words {inst middle after : Instance σ} {step : ExchangeStep} {names : Accessors}
    {machine : Machine} {start length : UInt32}
    (first : (inst.access step names.start).run machine = (.ok (middle, start), machine))
    (second : (middle.access step names.length).run machine = (.ok (after, length), machine))
    (positive : ¬ length.toInt32 < 0) :
    (inst.region step names).run machine = (.ok (after, ⟨start.toNat, length.toNat⟩), machine) := by
  unfold region
  rw [Session.run_bind, first]
  simp only
  rw [Session.run_bind, second]
  simp only [positive, ↓reduceIte]
  rfl

theorem readText_of_region {inst after : Instance σ} {step : ExchangeStep} {names : Accessors}
    {machine final : Machine} {span : Span} {bytes : Bytes}
    (located : (inst.region step names).run machine = (.ok (after, span), final))
    (read : final.memory.read? span.start span.length = some bytes) :
    (inst.readText step names).run machine = (.ok (Utf8.toStringLossy bytes), final) := by
  unfold readText
  rw [Session.run_bind, located]
  simp only
  rw [Session.run_bind, Session.get_run]
  simp only [read]
  rfl

/-- How a run ends that its script made fail, when the error text can be read. -/
theorem conclude_of_text {inst : Instance σ} {status : UInt32} {machine final : Machine}
    {raw : String} (failed : status.toInt32 ≠ Status.success.code)
    (text : (inst.readText .readError errorAccessors).run machine = (.ok raw, final)) :
    ((inst.conclude status).run machine).1 = .error (.failed (final.state.run.faultOf
      { Script.Failure.ofGuest status.toInt32 raw with logs := final.state.run.log })) := by
  unfold conclude
  rw [if_neg failed, Session.run_bind, text]
  rfl

theorem conclude_failed {inst after : Instance σ} {status : UInt32} {machine final : Machine}
    {span : Span} {bytes : Bytes} (failed : status.toInt32 ≠ Status.success.code)
    (located : (inst.region .readError errorAccessors).run machine = (.ok (after, span), final))
    (read : final.memory.read? span.start span.length = some bytes) :
    ((inst.conclude status).run machine).1 = .error (.failed (final.state.run.faultOf
      { Script.Failure.ofGuest status.toInt32 (Utf8.toStringLossy bytes) with
        logs := final.state.run.log })) :=
  conclude_of_text failed (readText_of_region located read)

end Instance

end ScriptSandbox.Guest
