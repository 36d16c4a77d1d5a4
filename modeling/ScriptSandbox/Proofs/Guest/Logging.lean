import ScriptSandbox.Proofs.Guest.HostCall
import ScriptSandbox.Proofs.Guest.Uncaught

/-!
# What becomes of the log

A guest adds lines to the log by its own log calls and by calls of the built-in `log`. All of them
are handed over with the outcome of a run or still lie in the log after it, in the order in which
they came, unless the run ends with a refusal: then they are taken from the log and handed to nobody.
-/
namespace ScriptSandbox

/-! ### Lines of payloads -/

namespace Bridge

/-- The line that a payload adds to the log, when it is a call of the built-in `log` and no handler
stands in its place. -/
def Host.line? (host : Host) (payload : Bytes) : Option String :=
  match host.read false payload with
  | .ok (.log, call) => some (logLine call.args)
  | _ => none

/-- What a payload is read as does not depend on whether its run was given up. -/
theorem Host.read_cancelled (host : Host) (cancelled : Bool) (payload : Bytes) :
    host.read cancelled payload =
      (host.read false payload).map fun (route, call) => (route, { call with cancelled }) := by
  unfold Host.read
  split
  · rfl
  · dsimp only
    split
    · rfl
    · split <;> rfl

theorem Host.dispatch_log (host : Host) (state : State) (payload : Bytes) :
    (host.dispatch state payload).2.run.log = state.run.log ++ (host.line? payload).toList := by
  unfold Host.dispatch Host.line?
  rw [host.read_cancelled]
  cases host.read false payload with
  | error => simp [Except.map]
  | ok found =>
    obtain ⟨route, call⟩ := found
    cases route <;> simp [Except.map, Host.perform, Run.push]

end Bridge

namespace Guest

variable {σ : Type}

/-! ### Lines of a guest's function -/

/-- What a guest tells its host. -/
inductive Signal where
  | call (payload : Bytes)
  | log (text : Bytes)

def Signal.line? (host : Bridge.Host) : Signal → Option String
  | call payload => host.line? payload
  | log text => some (Utf8.toStringLossy text)

namespace Machine

/-- What a guest's function tells the host, in order. -/
def signals (around : Surroundings) : Activity σ → Machine → List Signal
  | .finish .., _ | .trap, _ => []
  | .inspect next, machine => signals around (next machine.memory) machine
  | .store byteAt next, machine =>
    signals around next { machine with memory := { machine.memory with byteAt } }
  | .grow pages next, machine =>
    match machine.memory.grow? around.limits pages.toNat with
    | some memory =>
      signals around (next (UInt32.ofNat machine.memory.pages)) { machine with memory }
    | none => signals around (next (-1 : Int32).toUInt32) machine
  | .call input inputLength output room next, machine =>
    (machine.heard? around input inputLength).toList.map .call ++
      match machine.hostCall around input inputLength output room with
      | (.returned code, after) => signals around (next code) after
      | _ => []
  | .log start length next, machine =>
    (machine.heard? around start length).toList.map .log ++
      match machine.hostLog? around start length with
      | some after => signals around next after
      | none => []

/-- The log lines among what a guest's function tells the host. -/
def lines (around : Surroundings) (activity : Activity σ) (machine : Machine) : List String :=
  (machine.signals around activity).filterMap (Signal.line? around.host)

/-- A host call adds the line of its payload, also when its reply cannot be written. -/
theorem hostCall_log (around : Surroundings) (machine : Machine)
    (input inputLength output room : UInt32) :
    (machine.hostCall around input inputLength output room).2.state.run.log =
      machine.state.run.log ++
        ((machine.heard? around input inputLength).toList.map Signal.call).filterMap
          (Signal.line? around.host) := by
  by_cases readable : machine.Readable around input inputLength
  · rw [hostCall_state readable, Bridge.Host.dispatch_log, heard?_of_readable readable]
    cases line : around.host.line? (machine.request input inputLength) <;>
      simp [Signal.line?, line]
  · rw [hostCall_unread readable, heard?_of_unread readable]
    exact (List.append_nil _).symm

theorem hostLog?_log (around : Surroundings) (machine : Machine) (start length : UInt32) :
    ((machine.hostLog? around start length).getD machine).state.run.log =
      machine.state.run.log ++
        ((machine.heard? around start length).toList.map Signal.log).filterMap
          (Signal.line? around.host) := by
  by_cases readable : machine.Readable around start length
  · rw [hostLog?_eq_some_iff.mpr ⟨readable, rfl⟩, heard?_of_readable readable]
    rfl
  · have trapped : machine.hostLog? around start length = none :=
      Option.eq_none_iff_forall_ne_some.mpr fun _ logged =>
        readable (hostLog?_eq_some_iff.mp logged).1
    rw [trapped, heard?_of_unread readable]
    exact (List.append_nil _).symm

/-- The run of a guest's function adds its lines to the log, in order. -/
theorem run_log (around : Surroundings) (activity : Activity σ) (machine : Machine) :
    (machine.run around activity).2.state.run.log =
      machine.state.run.log ++ machine.lines around activity := by
  induction activity generalizing machine with
  | finish | trap => simp [run, lines, signals]
  | inspect next ih => exact ih _ _
  | store byteAt next ih => exact ih { machine with memory := { machine.memory with byteAt } }
  | grow pages next ih =>
    cases grown : machine.memory.grow? around.limits pages.toNat with
    | some memory =>
      simpa [run, lines, signals, grown] using ih _ { machine with memory }
    | none => simpa [run, lines, signals, grown] using ih _ machine
  | call input inputLength output room next ih =>
    -- The line of the call is there before any line of what follows it.
    have called := hostCall_log around machine input inputLength output room
    rcases ended : machine.hostCall around input inputLength output room with ⟨ending, after⟩
    rw [ended] at called
    cases ending with
    | returned code =>
      have further := ih code after
      rw [called] at further
      simpa [run, lines, signals, ended] using further
    | panicked | waiting => simpa [run, lines, signals, ended] using called
  | log start length next ih =>
    have logged := hostLog?_log around machine start length
    cases ended : machine.hostLog? around start length with
    | some after =>
      rw [ended, Option.getD_some] at logged
      have further := ih after
      rw [logged] at further
      simpa [run, lines, signals, ended] using further
    | none =>
      rw [ended, Option.getD_none] at logged
      simpa [run, lines, signals, ended] using logged

end Machine

/-! ### Lines of a session -/

/-- The log lines that an outcome carries. -/
def carriedLines : Except Stop Output → List String
  | .ok output => output.logs
  | .error (.failed (.script failure)) => failure.logs
  | .error _ => []

/-- A stop that is neither a refusal nor a failure of the script. -/
def Stop.Plain : Stop → Prop
  | .failed (.refused _) | .failed (.script _) => False
  | _ => True

theorem Stop.Plain.not_refused {stop : Stop} (plain : stop.Plain) :
    ¬ EndsRefused (.error stop) := by
  rintro ⟨message, refused⟩
  cases refused
  exact plain

theorem Stop.Plain.carriedLines {stop : Stop} (plain : stop.Plain) :
    carriedLines (.error stop) = [] := by
  rcases stop with fault | _ | _
  · cases fault
    case script => cases plain
    all_goals rfl
  · rfl
  · rfl

namespace Session

/-- What comes after a session that has a value. -/
def further {α : Type} (session : Session α) (later : α → Machine → List String)
    (machine : Machine) : List String :=
  match session.run machine with
  | (.ok value, after) => later value after
  | (.error _, _) => []

/-- A session that adds some lines to the log, and takes none from it. Where it fails, this is
neither by a refusal nor by its script. -/
structure Logs {α : Type} (session : Session α) (lines : Machine → List String) : Prop where
  log : ∀ machine,
    (session.run machine).2.state.run.log = machine.state.run.log ++ lines machine
  plain : session.StopsAs Stop.Plain

theorem Logs.bind {α β : Type} {session : Session α} {next : α → Session β}
    {lines : Machine → List String} {later : α → Machine → List String}
    (first : session.Logs lines) (second : ∀ value, (next value).Logs (later value)) :
    (session >>= next).Logs fun machine => lines machine ++ session.further later machine := by
  refine ⟨fun machine => ?_, first.plain.bind fun value => (second value).plain⟩
  have before := first.log machine
  rw [run_bind]
  unfold further
  rcases ended : session.run machine with ⟨_ | value, after⟩
  · rw [ended] at before
    simpa using before
  · rw [ended] at before
    rw [← List.append_assoc, ← before]
    exact (second value).log after

/-- Lines after which nothing more comes. -/
theorem Logs.bind_quiet {α β : Type} {session : Session α} {next : α → Session β}
    {lines : Machine → List String} (first : session.Logs lines)
    (second : ∀ value, (next value).Logs fun _ => []) : (session >>= next).Logs lines := by
  have both := first.bind second
  have nothing (machine : Machine) : session.further (fun _ _ => []) machine = [] := by
    unfold further
    split <;> rfl
  simpa only [nothing, List.append_nil] using both

theorem logs_of_silent {α : Type} {session : Session α}
    (same : ∀ machine, (session.run machine).2.state = machine.state)
    (plain : session.StopsAs Stop.Plain) : session.Logs fun _ => [] :=
  ⟨fun machine => by rw [same, List.append_nil], plain⟩

theorem pure_logs {α : Type} (value : α) : (pure value : Session α).Logs fun _ => [] :=
  logs_of_silent (fun _ => rfl) (pure_stopsAs value)

theorem get_logs : (get : Session Machine).Logs fun _ => [] :=
  logs_of_silent (fun _ => rfl) get_stopsAs

theorem fail_logs {α : Type} {fault : Fault} (plain : (Stop.failed fault).Plain) :
    (fail fault : Session α).Logs fun _ => [] :=
  logs_of_silent (fun _ => rfl) (fail_stopsAs plain)

theorem call_logs (around : Surroundings) {trapped : Fault} (plain : (Stop.failed trapped).Plain)
    (activity : Activity σ) :
    (call around trapped activity).Logs (Machine.lines around activity) := by
  refine ⟨fun machine => ?_, call_stopsAs plain trivial trivial⟩
  have logged := machine.run_log around activity
  rw [← logged, call_run]
  rcases machine.run around activity with ⟨ending, after⟩
  cases ending <;> rfl

end Session

/-! ### Lines of a run -/

namespace Instance

/-- The lines that come while an accessor is called. -/
def accessLines (inst : Instance σ) (name : String) : Machine → List String :=
  match inst.image.export? name with
  | some (.getter body) => Machine.lines inst.around (body inst.globals)
  | _ => fun _ => []

def regionLines (inst : Instance σ) (step : ExchangeStep) (names : Accessors)
    (machine : Machine) : List String :=
  inst.accessLines names.start machine ++
    (inst.access step names.start).further (fun (inst, _) => inst.accessLines names.length) machine

def scriptRegionLines (inst : Instance σ) : Machine → List String :=
  if inst.image.hasFunction scriptAccessors.start &&
      inst.image.hasFunction scriptAccessors.length then
    inst.regionLines .locateScript scriptAccessors
  else fun _ => []

/-- The lines that come before the evaluation. -/
def prepareLines (inst : Instance σ) : Machine → List String :=
  match inst.evaluator? with
  | some _ => inst.scriptRegionLines
  | none => fun _ => []

/-- The lines that come after an evaluation that ended with a status. -/
def concludeLines (inst : Instance σ) (status : UInt32) : Machine → List String :=
  if status.toInt32 = Status.success.code then inst.regionLines .readResult resultAccessors
  else inst.regionLines .readError errorAccessors

/-- The lines that a guest adds to the log during a run, in order. -/
def runLines (inst : Instance σ) (source : String) (machine : Machine) : List String :=
  inst.prepareLines machine ++
    (inst.prepare source).further (fun (ready, activity) started =>
      started.lines ready.around activity ++
        (Session.call ready.around (.engine .evaluation) activity).further
          (fun (globals, status) => { ready with globals }.concludeLines status) started) machine

theorem access_logs (inst : Instance σ) (step : ExchangeStep) (name : String) :
    (inst.access step name).Logs (inst.accessLines name) := by
  have silent : (Session.fail (.exchange step (.unavailable name)) :
      Session (Instance σ × UInt32)).Logs fun _ => [] := by
    apply Session.fail_logs
    trivial
  unfold access accessLines
  cases inst.image.export? name with
  | none => exact silent
  | some found =>
    cases found with
    | getter body =>
      refine (Session.call_logs _ ?_ _).bind_quiet fun _ => Session.pure_logs _
      trivial
    | memory | action | evaluator | otherFunction => exact silent

theorem region_logs (inst : Instance σ) (step : ExchangeStep) (names : Accessors) :
    (inst.region step names).Logs (inst.regionLines step names) := by
  unfold region regionLines
  refine (access_logs _ _ _).bind fun (inst, _) => ?_
  refine (access_logs _ _ _).bind_quiet fun (inst, _) => ?_
  dsimp only
  split
  · exact (Session.fail_logs (by trivial)).bind_quiet fun _ => Session.pure_logs _
  · exact Session.pure_logs _

theorem readText_logs (inst : Instance σ) (step : ExchangeStep) (names : Accessors) :
    (inst.readText step names).Logs (inst.regionLines step names) := by
  unfold readText
  refine (region_logs _ _ _).bind_quiet fun (_, span) => ?_
  refine Session.get_logs.bind_quiet fun machine => ?_
  split
  · exact Session.pure_logs _
  · exact Session.fail_logs (by trivial)

theorem scriptRegion_logs (inst : Instance σ) :
    inst.scriptRegion.Logs inst.scriptRegionLines := by
  rw [scriptRegion_eq]
  refine Session.Logs.bind_quiet ?_ fun found => Session.get_logs.bind_quiet fun machine => ?_
  · unfold locate scriptRegionLines
    split
    · exact region_logs _ _ _
    · exact Session.pure_logs _
  · split
    · exact Session.fail_logs (by trivial)
    · exact Session.pure_logs _

theorem writeScript_logs (span : Span) (script : Bytes) :
    (writeScript span script).Logs fun _ => [] := by
  rw [writeScript_eq]
  split
  · exact Session.fail_logs (by trivial)
  · refine Session.get_logs.bind_quiet fun machine => ?_
    split
    · refine Session.logs_of_silent (fun _ => rfl) fun _ _ _ ended => ?_
      cases ended
    · exact Session.fail_logs (by trivial)

theorem prepare_logs (inst : Instance σ) (source : String) :
    (inst.prepare source).Logs inst.prepareLines := by
  unfold prepare prepareLines
  cases inst.evaluator? with
  | none =>
    apply Session.fail_logs
    trivial
  | some eval =>
    refine (scriptRegion_logs inst).bind_quiet fun (inst, span) => ?_
    exact (writeScript_logs _ _).bind_quiet fun _ => Session.pure_logs _

/-! ### What an outcome leaves of the log -/

/-- The lines of a run lie in what its outcome carries, followed by what the log still holds. After
a run that ended with a refusal they lie in neither. -/
def Accounted (outcome : Except Stop Output) (after : Machine) (lines : List String) : Prop :=
  (¬ EndsRefused outcome ∧ carriedLines outcome ++ after.state.run.log = lines) ∨
    (EndsRefused outcome ∧ carriedLines outcome = [] ∧ after.state.run.log = [])

theorem accounted_of_plain {stop : Stop} {after : Machine} {lines : List String}
    (plain : stop.Plain) (log : after.state.run.log = lines) :
    Accounted (.error stop) after lines := by
  left
  refine ⟨plain.not_refused, ?_⟩
  rw [plain.carriedLines, List.nil_append]
  exact log

theorem conclude_accounted (inst : Instance σ) (status : UInt32) (machine : Machine) :
    Accounted ((inst.conclude status).run machine).1 ((inst.conclude status).run machine).2
      (machine.state.run.log ++ inst.concludeLines status machine) := by
  unfold conclude concludeLines
  split
  · have read := inst.readText_logs .readResult resultAccessors
    have log := read.log machine
    rw [Session.run_bind]
    rcases ended : (inst.readText .readResult resultAccessors).run machine with
      ⟨stop | value, after⟩
    · rw [ended] at log
      exact accounted_of_plain (read.plain _ _ _ ended) log
    · rw [ended] at log
      left
      refine ⟨?_, ?_⟩
      · rintro ⟨message, refused⟩
        cases refused
      · rw [← log]
        exact List.append_nil _
  · have read := inst.readText_logs .readError errorAccessors
    have log := read.log machine
    rw [Session.run_bind]
    rcases ended : (inst.readText .readError errorAccessors).run machine with ⟨stop | raw, after⟩
    · rw [ended] at log
      exact accounted_of_plain (read.plain _ _ _ ended) log
    · rw [ended] at log
      -- The log is taken before it is decided what the run is told as.
      let failure : Script.Failure :=
        { Script.Failure.ofGuest status.toInt32 raw with logs := after.state.run.log }
      let run : Bridge.Run := { after.state.run with log := [] }
      change Accounted (.error (.failed (run.faultOf failure)))
        { after with state := { after.state with run } } _
      rcases run.faultOf_cases failure with ⟨message, told⟩ | plain
      · right
        rw [told]
        exact ⟨⟨message, rfl⟩, rfl, rfl⟩
      · left
        rw [plain]
        refine ⟨?_, ?_⟩
        · rintro ⟨message, refused⟩
          cases refused
        · rw [← log]
          exact List.append_nil _

/-- After a run, the lines that its outcome carries and those that are still in the log are the ones
that were there before and those that the guest added, in order; unless the run ended with a
refusal, which leaves none of them. -/
theorem run_lines_accounted (inst : Instance σ) (source : String) (machine : Machine) :
    Accounted ((inst.run source).run machine).1 ((inst.run source).run machine).2
      (machine.state.run.log ++ inst.runLines source machine) := by
  have prepared := inst.prepare_logs source
  have log := prepared.log machine
  unfold run runLines Session.further
  rw [Session.run_bind]
  -- A run stops before its evaluation, in it, or after it.
  rcases ended : (inst.prepare source).run machine with ⟨stop | ⟨ready, activity⟩, started⟩
  · rw [ended] at log
    exact accounted_of_plain (prepared.plain _ _ _ ended) (by simpa using log)
  · rw [ended] at log
    have called : (Session.call ready.around (.engine .evaluation) activity).Logs _ :=
      Session.call_logs ready.around (by trivial) activity
    have logged := called.log started
    simp only
    rw [Session.run_bind]
    rcases evaluated : (Session.call ready.around (.engine .evaluation) activity).run started with
      ⟨stop | ⟨globals, status⟩, after⟩
    · rw [evaluated] at logged
      refine accounted_of_plain (called.plain _ _ _ evaluated) ?_
      simp only [List.append_nil]
      rw [logged, log, List.append_assoc]
    · rw [evaluated] at logged
      have concluded := { ready with globals }.conclude_accounted status after
      rw [logged, log] at concluded
      simpa only [List.append_assoc] using concluded

end Instance

/-! ### A line that a refused run drops -/

namespace DroppedLine

/-- The call of a script that reads an absolute path. -/
def payload : Bytes :=
  Json.toBytes (.object [("args", .array [.string "/x"]), ("method", .string "fs.readText")])

/-- What a guest keeps of the error of this call. -/
def errorText : Bytes :=
  Utf8.encode (Script.Failure.exceptionText (refusalText (.absolutePath "/x")) none)

/-- A memory that starts with some bytes. -/
def memory (bytes : Bytes) : Memory := ⟨0x200000, fun place => bytes.getD place 0⟩

/-- Logs the first byte of the memory, makes the call, and puts the error text in its place. -/
def activity : Activity Unit :=
  .log 0 1 <| .call 0 (UInt32.ofNat payload.length) 0 0 fun _ =>
    .store (memory errorText).byteAt (.finish () 22)

/-- A guest for which every script does this. -/
def inst : Instance Unit where
  image := {
    pages := 32, maxPages := none, data := [], globals := (), start := none
    exports := [
      ("eval", .evaluator fun _ _ _ => activity),
      ("get_last_error_ptr", .getter fun _ => .finish () 0),
      ("get_last_error_len", .getter fun _ => .finish () (UInt32.ofNat errorText.length))] }
  around := ⟨⟨{}, ⟨⟨["box"], none⟩, .ofPolicy {} .offline, fun _ => {}⟩⟩, ⟨none, 0⟩, true⟩
  globals := ()

def machine : Machine := ⟨memory payload, ⟨{}, {}⟩⟩

def ended : Except Stop Output × Machine := (inst.run "").run machine

theorem dropped : inst.runLines "" machine = ["\x7b"] ∧ carriedLines ended.1 = [] ∧
    ended.2.state.run.log = [] := by
  decide +kernel

/-- The run ends with the refusal, and nobody gets its line. -/
theorem refused_run_drops_line : EndsRefused ended.1 ∧ inst.runLines "" machine = ["\x7b"] ∧
    carriedLines ended.1 = [] ∧ ended.2.state.run.log = [] := by
  obtain ⟨line, carried, left⟩ := dropped
  rcases inst.run_lines_accounted "" machine with ⟨_, kept⟩ | ⟨refused, _⟩
  · change carriedLines ended.1 ++ ended.2.state.run.log = _ at kept
    rw [line, carried, left] at kept
    cases kept
  · exact ⟨refused, line, carried, left⟩

end DroppedLine

end Guest

end ScriptSandbox
