import ScriptSandbox.Sandbox
import ScriptSandbox.Proofs.Guest.Logging

/-!
# The record of a run

An instance is made for each run, and its record holds the messages of the calls that were refused
to the guest since then, in order, and nothing else. A run ends with a refusal only after an
evaluation that failed, and then with the latest one whose message occurs in what the evaluation
failed with. It ends as this failure when no such message does.
-/
namespace ScriptSandbox.Guest

open Bridge (Served refusals)

variable {σ : Type}

/-! ### Calls of a run -/

namespace Instance

variable (inst : Instance σ) (step : ExchangeStep) (names : Accessors)

def scriptRegionCalls : Machine → List Served :=
  if inst.image.hasFunction scriptAccessors.start &&
      inst.image.hasFunction scriptAccessors.length then
    inst.regionCalls .locateScript scriptAccessors
  else fun _ => []

/-- The calls that come before the evaluation. -/
def prepareCalls : Machine → List Served :=
  match inst.evaluator? with
  | some _ => inst.scriptRegionCalls
  | none => fun _ => []

/-- The calls that come after an evaluation that ended with a status. -/
def concludeCalls (status : UInt32) : Machine → List Served :=
  if status.toInt32 = Status.success.code then inst.regionCalls .readResult resultAccessors
  else inst.regionCalls .readError errorAccessors

theorem scriptRegion_records :
    inst.scriptRegion.Records inst.scriptRegionCalls := by
  rw [scriptRegion_eq]
  refine Session.Records.bind_quiet ?_ fun found => ?_
  · unfold locate scriptRegionCalls
    split
    · exact region_records _ _ _
    · exact Session.pure_records _
  · refine Session.get_records.bind_quiet fun _ => ?_
    split
    · exact Session.fail_records _
    · exact Session.pure_records _

theorem writeScript_records (span : Span) (script : Bytes) :
    (writeScript span script).Records fun _ => [] := by
  rw [writeScript_eq]
  split
  · exact Session.fail_records _
  · refine Session.get_records.bind_quiet fun machine => ?_
    split
    · exact Session.records_of_silent fun _ => rfl
    · exact Session.fail_records _

theorem prepare_records (source : String) :
    (inst.prepare source).Records inst.prepareCalls := by
  unfold prepare prepareCalls
  cases inst.evaluator? with
  | none => exact Session.fail_records _
  | some evaluate =>
    refine (scriptRegion_records inst).bind_quiet fun (inst, span) => ?_
    exact (writeScript_records _ _).bind_quiet fun _ => Session.pure_records _

theorem readText_records :
    (inst.readText step names).Records (inst.regionCalls step names) := by
  unfold readText
  refine (region_records _ _ _).bind_quiet fun (_, span) => ?_
  refine Session.get_records.bind_quiet fun machine => ?_
  split
  · exact Session.pure_records _
  · exact Session.fail_records _

theorem takeLog_records : takeLog.Records fun _ => [] :=
  Session.records_of_silent fun _ => rfl

theorem conclude_records (status : UInt32) :
    (inst.conclude status).Records (inst.concludeCalls status) := by
  unfold conclude concludeCalls
  split
  · refine (readText_records _ _ _).bind_quiet fun _ => ?_
    exact takeLog_records.bind_quiet fun _ => Session.pure_records _
  · refine (readText_records _ _ _).bind_quiet fun _ => takeLog_records.bind_quiet fun _ => ?_
    exact Session.get_records.bind_quiet fun _ => Session.fail_records _

end Instance

/-! ### Calls of an instance from its start -/

namespace Engine

variable (engine : Engine) (module : Module σ) (host : Bridge.Host) (source : String)

/-- What the functions of a module can reach. -/
def around : Surroundings :=
  ⟨host, module.image.limits engine.config, module.image.exportsMemory⟩

/-- Puts the initial data into a fresh memory. -/
def fill : Session Unit := do
  if !(module.image.limits engine.config).allows module.image.pages then
    Session.fail (.engine .instantiation)
  else match initialMemory module.image with
    | none => Session.fail (.engine .instantiation)
    | some memory => modify fun machine => { machine with memory }

/-- Runs the start function, and gives the globals after it. -/
def start : Session σ :=
  match module.image.start with
  | some body =>
    Prod.fst <$> Session.call (engine.around module host) (.engine .instantiation)
      (body module.image.globals)
  | none => pure module.image.globals

/-- Runs the initializer, and gives the globals after it. -/
def setUp (globals : σ) : Session σ :=
  if module.image.exportsMemory then
    match module.image.export? "_initialize" with
    | some (.action body) =>
      Prod.fst <$> Session.call (engine.around module host) (.engine .initialization) (body globals)
    | _ => pure globals
  else Session.fail (.missingExport "memory")

theorem instantiate_eq :
    engine.instantiate module host = do
      engine.fill module
      let globals ← engine.setUp module host (← engine.start module host)
      return ⟨module.image, engine.around module host, globals⟩ := by
  unfold instantiate fill start setUp around
  dsimp only
  cases (module.image.limits engine.config).allows module.image.pages with
  | false => simp
  | true =>
    cases initialMemory module.image with
    | none => simp
    | some memory =>
      cases module.image.exportsMemory <;> cases module.image.start <;> simp
      · cases module.image.export? "_initialize" with
        | none => simp
        | some found => cases found <;> simp
      · refine bind_congr fun _ => bind_congr fun _ => ?_
        cases module.image.export? "_initialize" with
        | none => simp
        | some found => cases found <;> simp

/-- What happens up to the end of an evaluation, which gives a status and leaves an instance. -/
def evaluate : Session (Instance σ × UInt32) := do
  let (ready, activity) ← (← engine.instantiate module host).prepare source
  let (globals, status) ← Session.call ready.around (.engine .evaluation) activity
  return ({ ready with globals }, status)

/-- A run of a script with an instance of its own. -/
def runScript : Session Output := do
  (← engine.instantiate module host).run source

theorem runScript_eq :
    engine.runScript module host source =
      engine.evaluate module host source >>= fun (inst, status) => inst.conclude status := by
  unfold runScript evaluate Instance.run
  simp

def startCalls : Machine → List Served :=
  match module.image.start with
  | some body => Machine.served (engine.around module host) (body module.image.globals)
  | none => fun _ => []

def setUpCalls (globals : σ) : Machine → List Served :=
  if module.image.exportsMemory then
    match module.image.export? "_initialize" with
    | some (.action body) => Machine.served (engine.around module host) (body globals)
    | _ => fun _ => []
  else fun _ => []

/-- The calls of a module's start function and of its initializer. -/
def instantiateCalls : Machine → List Served :=
  (engine.fill module).callsThen (fun _ => []) fun _ =>
    (engine.start module host).callsThen (engine.startCalls module host)
      (engine.setUpCalls module host)

/-- The calls that come up to the end of an evaluation. -/
def evaluateCalls : Machine → List Served :=
  (engine.instantiate module host).callsThen (engine.instantiateCalls module host) fun inst =>
    (inst.prepare source).callsThen inst.prepareCalls fun (ready, activity) =>
      Machine.served ready.around activity

/-- All calls of a run, in order, from those of the start function on. -/
def runCalls : Machine → List Served :=
  (engine.evaluate module host source).callsThen (engine.evaluateCalls module host source)
    fun (inst, status) => inst.concludeCalls status

theorem fill_records : (engine.fill module).Records fun _ => [] := by
  unfold fill
  split
  · exact Session.fail_records _
  · split
    · exact Session.fail_records _
    · exact Session.records_of_silent fun _ => rfl

theorem start_records : (engine.start module host).Records (engine.startCalls module host) := by
  unfold start startCalls
  cases module.image.start with
  | some body => exact (Session.call_records _ _ _).map Prod.fst
  | none => exact Session.pure_records _

theorem setUp_records (globals : σ) :
    (engine.setUp module host globals).Records (engine.setUpCalls module host globals) := by
  unfold setUp setUpCalls
  split
  · cases module.image.export? "_initialize" with
    | none => exact Session.pure_records _
    | some found =>
      cases found with
      | action body => exact (Session.call_records _ _ _).map Prod.fst
      | memory | getter | evaluator | otherFunction => exact Session.pure_records _
  · exact Session.fail_records _

theorem instantiate_records :
    (engine.instantiate module host).Records (engine.instantiateCalls module host) := by
  rw [instantiate_eq]
  refine (fill_records _ _).bind fun _ => (start_records _ _ _).bind fun globals => ?_
  exact (setUp_records _ _ _ _).bind_quiet fun _ => Session.pure_records _

theorem evaluate_records :
    (engine.evaluate module host source).Records (engine.evaluateCalls module host source) := by
  unfold evaluate evaluateCalls
  refine (instantiate_records _ _ _).bind fun inst => ?_
  refine (inst.prepare_records source).bind fun (ready, activity) => ?_
  exact (Session.call_records _ _ _).bind_quiet fun _ => Session.pure_records _

theorem runScript_records :
    (engine.runScript module host source).Records (engine.runCalls module host source) := by
  rw [runScript_eq]
  exact (evaluate_records _ _ _ _).bind fun (inst, status) => inst.conclude_records status

end Engine

/-! ### How a run stops -/

/-- How an instantiation breaks off. -/
inductive Stop.Uninstantiated (image : Image σ) : Stop → Prop where
  | panicked : Uninstantiated image .panicked
  | waiting : Uninstantiated image .waiting
  | engine (cause : EngineFault) : Uninstantiated image (.failed (.engine cause))
  | noMemory (lacks : image.exportsMemory = false) :
      Uninstantiated image (.failed (.missingExport "memory"))

theorem Stop.Uninstantiated.plain {image : Image σ} {stop : Stop}
    (broke : stop.Uninstantiated image) : stop.Plain := by
  cases broke <;> trivial

namespace Engine

variable (engine : Engine) (module : Module σ) (host : Bridge.Host) (source : String)

/-- Only the memory is missed as an export by an instantiation. -/
theorem instantiate_stops :
    (engine.instantiate module host).StopsAs (Stop.Uninstantiated module.image) := by
  rw [instantiate_eq]
  refine Session.StopsAs.bind ?_ fun _ => .bind ?_ fun globals => .bind ?_ fun _ =>
    Session.pure_stopsAs _
  · unfold fill
    split
    · exact Session.fail_stopsAs (.engine _)
    · split
      · exact Session.fail_stopsAs (.engine _)
      · exact fun _ _ _ ended => nomatch ended
  · unfold start
    split
    · exact (Session.call_stopsAs (.engine _) .panicked .waiting).map Prod.fst
    · exact Session.pure_stopsAs _
  · unfold setUp
    split
    · split
      · exact (Session.call_stopsAs (.engine _) .panicked .waiting).map Prod.fst
      · exact Session.pure_stopsAs _
    next lacks => exact Session.fail_stopsAs (.noMemory (by simpa using lacks))

/-- What stops before the end of the evaluation is neither a refusal nor a failure of the script. -/
theorem evaluate_plain : (engine.evaluate module host source).StopsAs Stop.Plain := by
  unfold evaluate
  refine Session.StopsAs.bind ?_ fun inst => ?_
  · exact (engine.instantiate_stops module host).mono fun _ => Stop.Uninstantiated.plain
  · refine Session.StopsAs.bind (inst.prepare_logs source).plain fun prepared => ?_
    exact (Session.call_stopsAs trivial trivial trivial).bind fun _ => Session.pure_stopsAs _

end Engine

/-- An evaluation ended with a status that is no success, and its error text is read as a failure. -/
def FailsWith (evaluation : Except Stop (Instance σ × UInt32) × Machine)
    (failure : Script.Failure) : Prop :=
  ∃ inst status evaluated raw final, evaluation = (.ok (inst, status), evaluated) ∧
    status.toInt32 ≠ Status.success.code ∧
    (inst.readText .readError errorAccessors).run evaluated = (.ok raw, final) ∧
    failure = Script.Failure.ofGuest status.toInt32 raw

/-- A run ends with a refusal only when its evaluation failed, and its record holds this refusal. -/
theorem Instance.conclude_refused {inst : Instance σ} {status : UInt32} {machine : Machine}
    {cause : Refusal}
    (refused : ((inst.conclude status).run machine).1 = .error (.failed (.refused cause))) :
    status.toInt32 ≠ Status.success.code ∧ ∃ raw final,
      (inst.readText .readError errorAccessors).run machine = (.ok raw, final) ∧
      final.state.run.faultOf { Script.Failure.ofGuest status.toInt32 raw with
        logs := final.state.run.log } = .refused cause := by
  by_cases succeeded : status.toInt32 = Status.success.code
  · unfold conclude at refused
    rw [if_pos succeeded, Session.run_bind] at refused
    rcases ended : (inst.readText .readResult resultAccessors).run machine with
      ⟨stop | value, final⟩
    · -- What keeps a text from being read is no refusal.
      rw [ended] at refused
      cases refused
      have plain : False := (inst.readText_logs _ _).plain _ _ _ ended
      exact plain.elim
    · rw [ended] at refused
      cases refused
  · refine ⟨succeeded, ?_⟩
    rcases ended : (inst.readText .readError errorAccessors).run machine with ⟨stop | raw, final⟩
    · unfold conclude at refused
      rw [if_neg succeeded, Session.run_bind, ended] at refused
      cases refused
      have plain : False := (inst.readText_logs _ _).plain _ _ _ ended
      exact plain.elim
    · rw [conclude_of_text succeeded ended] at refused
      exact ⟨raw, final, rfl, Stop.failed.inj (Except.error.inj refused)⟩

/-! ### What a run tells of its refusals -/

/-- No message of a refusal among some calls occurs in a text. -/
def Unheard (calls : List Served) (text : String) : Prop :=
  ∀ call ∈ calls, ∀ message, call.refused? = some message → ¬ message.toList <:+: text.toList

/-- A refusal is the latest among some calls that is heard of in what an evaluation failed with. -/
def LatestHeard (calls : List Served) (evaluation : Except Stop (Instance σ × UInt32) × Machine)
    (cause : Refusal) : Prop :=
  ∃ failure earlier call later, FailsWith evaluation failure ∧
    calls = earlier ++ call :: later ∧ call.refused? = some cause.message ∧
    cause.message.toList <:+: failure.message.toList ∧ Unheard later failure.message

/-- What a run that made some calls says about its refusals is so. -/
structure Truthful (calls : List Served)
    (evaluation : Except Stop (Instance σ × UInt32) × Machine)
    (ended : Except Stop Output × Machine) : Prop where
  recorded : ended.2.state.run.refusals = refusals calls
  told : ∀ cause, ended.1 = .error (.failed (.refused cause)) → LatestHeard calls evaluation cause
  unrefused : (∀ call ∈ calls, call.refused? = none) →
    ∀ cause, ended.1 ≠ .error (.failed (.refused cause))
  succeeded : ∀ inst status evaluated, evaluation = (.ok (inst, status), evaluated) →
    status.toInt32 = Status.success.code → ∀ cause, ended.1 ≠ .error (.failed (.refused cause))
  failed : ∀ failure, FailsWith evaluation failure → Unheard calls failure.message →
    ∃ logs, ended.1 = .error (.failed (.script { failure with logs }))

namespace Engine

variable {engine : Engine} {module : Module σ} {host : Bridge.Host} {source : String}
  {machine evaluated final : Machine} {inst : Instance σ} {status : UInt32} {raw : String}

/-- When the error text has been read, the record holds the refusals of all calls of the run. -/
theorem record_when_read
    (ended : (engine.evaluate module host source).run machine = (.ok (inst, status), evaluated))
    (failed : status.toInt32 ≠ Status.success.code)
    (text : (inst.readText .readError errorAccessors).run evaluated = (.ok raw, final)) :
    final.state.run.refusals =
      machine.state.run.refusals ++ refusals (engine.runCalls module host source machine) := by
  have first := (engine.evaluate_records module host source).record machine
  have second := (inst.readText_records .readError errorAccessors).record evaluated
  rw [ended] at first
  rw [text] at second
  have calls : engine.runCalls module host source machine =
      engine.evaluateCalls module host source machine ++
        inst.regionCalls .readError errorAccessors evaluated := by
    simp only [runCalls, Session.callsThen, ended, Instance.concludeCalls, if_neg failed]
  rw [second, first, calls]
  simp

/-- A refusal that a run ends with is the latest of its calls that is heard of. -/
theorem latestHeard_of_refused (fresh : machine.state.run.refusals = []) {cause : Refusal}
    (refused : ((engine.runScript module host source).run machine).1 =
      .error (.failed (.refused cause))) :
    LatestHeard (engine.runCalls module host source machine)
      ((engine.evaluate module host source).run machine) cause := by
  rw [runScript_eq, Session.run_bind] at refused
  rcases ended : (engine.evaluate module host source).run machine with
    ⟨stop | ⟨inst, status⟩, evaluated⟩
  · rw [ended] at refused
    cases refused
    have plain : False := engine.evaluate_plain module host source _ _ _ ended
    exact plain.elim
  · rw [ended] at refused
    obtain ⟨failed, raw, final, text, latest⟩ := Instance.conclude_refused refused
    obtain ⟨earlier, later, split, occurs, absent⟩ := Bridge.Run.latest_of_faultOf latest
    -- The record that the host searches is the refusals of the calls, so it splits where they do.
    rw [record_when_read ended failed text, fresh, List.nil_append] at split
    obtain ⟨before, call, after, all, answer, rfl⟩ := Bridge.split_of_refusals split
    refine ⟨_, before, call, after, ⟨inst, status, evaluated, raw, final, rfl, failed, text, rfl⟩,
      all, answer, occurs, fun other among message refused => ?_⟩
    exact absent message (List.mem_filterMap.mpr ⟨other, among, refused⟩)

/-- A run whose script failed with something that no refusal is heard of in ends with that. -/
theorem failed_of_unheard (fresh : machine.state.run.refusals = []) {failure : Script.Failure}
    (fails : FailsWith ((engine.evaluate module host source).run machine) failure)
    (unheard : Unheard (engine.runCalls module host source machine) failure.message) :
    ∃ logs, ((engine.runScript module host source).run machine).1 =
      .error (.failed (.script { failure with logs })) := by
  obtain ⟨inst, status, evaluated, raw, final, ended, failed, text, rfl⟩ := fails
  refine ⟨final.state.run.log, ?_⟩
  rw [runScript_eq, Session.run_bind, ended]
  dsimp only
  rw [Instance.conclude_of_text failed text, Bridge.Run.faultOf_of_absent]
  intro message among
  rw [record_when_read ended failed text, fresh, List.nil_append] at among
  obtain ⟨call, made, refused⟩ := List.mem_filterMap.mp among
  exact unheard call made message refused

/-- A run with an instance of its own ends with a refusal only when its script failed with it, and
when it is one of the calls that the instance has made, from its start function on. -/
theorem run_tells_its_refusals (engine : Engine) (module : Module σ) (host : Bridge.Host)
    (source : String) (world : Bridge.World) (cancelled : Bool) :
    let machine := Machine.fresh world { cancelled }
    Truthful (engine.runCalls module host source machine)
      ((engine.evaluate module host source).run machine)
      ((engine.runScript module host source).run machine) := by
  intro machine
  have told (cause : Refusal)
      (refused : ((engine.runScript module host source).run machine).1 =
        .error (.failed (.refused cause))) :
      LatestHeard (engine.runCalls module host source machine)
        ((engine.evaluate module host source).run machine) cause :=
    latestHeard_of_refused rfl refused
  constructor
  case recorded => exact (engine.runScript_records module host source).record machine
  case told => exact told
  case unrefused =>
    intro quiet cause refused
    obtain ⟨_, earlier, call, later, -, all, answer, -⟩ := told cause refused
    rw [quiet call (by simp [all])] at answer
    cases answer
  case succeeded =>
    intro inst status evaluated ended success cause refused
    obtain ⟨_, _, _, _, ⟨_, _, _, _, _, ended', failed, -⟩, -⟩ := told cause refused
    rw [ended] at ended'
    cases ended'
    exact failed success
  case failed => exact fun failure => failed_of_unheard rfl

end Engine

end ScriptSandbox.Guest
