import ScriptSandbox.Proofs.Guest.Memory
import ScriptSandbox.Proofs.Guest.Stops

/-!
# The script that is evaluated

A run puts its script into the region that the guest names for it, and calls the evaluator once with
the span that the script takes. Where it does not come to that, the memory is what the accessors of
the guest have left, with the host calls that they made themselves.

That an evaluator is called once, or not at all, is said with other evaluators in its place: a run
with these does the same up to the call, and then what they do.
-/
namespace ScriptSandbox.Guest

variable {σ : Type}

/-- A function that evaluates the script in a span. -/
abbrev Evaluator (σ : Type) := (start length : UInt32) → σ → Activity σ

/-! ### Other evaluators -/

def Export.mapEvaluator (change : Evaluator σ → Evaluator σ) : Export σ → Export σ
  | .evaluator body => .evaluator (change body)
  | found => found

@[simp] theorem Export.isFunction_mapEvaluator (change : Evaluator σ → Evaluator σ)
    (found : Export σ) : (found.mapEvaluator change).isFunction = found.isFunction := by
  cases found <;> rfl

namespace Image

/-- A module with other evaluators in the place of its own. -/
def mapEvaluators (change : Evaluator σ → Evaluator σ) (image : Image σ) : Image σ :=
  { image with exports := image.exports.map fun (name, found) => (name, found.mapEvaluator change) }

variable (change : Evaluator σ → Evaluator σ) (image : Image σ)

@[simp] theorem export?_mapEvaluators (name : String) :
    (image.mapEvaluators change).export? name =
      (image.export? name).map (Export.mapEvaluator change) := by
  unfold export? mapEvaluators
  dsimp only
  induction image.exports with
  | nil => rfl
  | cons entry rest ih =>
    obtain ⟨other, found⟩ := entry
    cases here : name == other <;> simp [List.lookup_cons, here, ih]

@[simp] theorem hasFunction_mapEvaluators (name : String) :
    (image.mapEvaluators change).hasFunction name = image.hasFunction name := by
  have same : (image.mapEvaluators change).functionNames = image.functionNames := by
    simp [functionNames, mapEvaluators, List.filter_map, Function.comp_def]
  unfold hasFunction
  rw [same]

end Image

namespace Instance

def mapEvaluators (change : Evaluator σ → Evaluator σ) (inst : Instance σ) : Instance σ :=
  { inst with image := inst.image.mapEvaluators change }

@[simp] theorem mapEvaluators_id (inst : Instance σ) : inst.mapEvaluators id = inst := by
  have same (found : Export σ) : found.mapEvaluator id = found := by cases found <;> rfl
  simp [mapEvaluators, Image.mapEvaluators, same]

/-- What a run does from the call of its evaluator on. -/
def evaluation (inst : Instance σ) (activity : Activity σ) : Session Output := do
  let (globals, status) ← Session.call inst.around (.engine .evaluation) activity
  { inst with globals }.conclude status

/-- A run with an evaluator. -/
def runWith (inst : Instance σ) (evaluate : Evaluator σ) (source : String) : Session Output := do
  let (ready, span) ← inst.scriptRegion
  writeScript span (Utf8.ofString source)
  let length := UInt32.ofNat (Utf8.ofString source).length
  ready.evaluation (evaluate (UInt32.ofNat span.start) length ready.globals)

theorem run_eq (inst : Instance σ) (source : String) :
    inst.run source =
      match inst.evaluator? with
      | none => Session.fail (.missingExport "eval")
      | some evaluate => inst.runWith evaluate source := by
  unfold run prepare runWith evaluation
  cases inst.evaluator? <;> simp

section Changing

variable (change : Evaluator σ → Evaluator σ) (inst : Instance σ)

theorem access_mapEvaluators (step : ExchangeStep) (name : String) :
    (inst.mapEvaluators change).access step name =
      (fun found => (found.1.mapEvaluators change, found.2)) <$> inst.access step name := by
  unfold access mapEvaluators
  simp only [Image.export?_mapEvaluators]
  cases inst.image.export? name with
  | none => simp
  | some found => cases found <;> simp [Export.mapEvaluator]

theorem region_mapEvaluators (step : ExchangeStep) (names : Accessors) :
    (inst.mapEvaluators change).region step names =
      (fun found => (found.1.mapEvaluators change, found.2)) <$> inst.region step names := by
  unfold region
  simp only [access_mapEvaluators, bind_map_left, map_bind]
  refine bind_congr fun start => bind_congr fun length => ?_
  split <;> simp

theorem locate_mapEvaluators :
    (inst.mapEvaluators change).locate =
      (fun found => (found.1.mapEvaluators change, found.2)) <$> inst.locate := by
  have same (name : String) :
      (inst.mapEvaluators change).image.hasFunction name = inst.image.hasFunction name :=
    inst.image.hasFunction_mapEvaluators change name
  unfold locate
  rw [same, same, region_mapEvaluators]
  split <;> simp

theorem scriptRegion_mapEvaluators :
    (inst.mapEvaluators change).scriptRegion =
      (fun found => (found.1.mapEvaluators change, found.2)) <$> inst.scriptRegion := by
  rw [scriptRegion_eq, scriptRegion_eq, locate_mapEvaluators, bind_map_left, map_bind]
  refine bind_congr fun found => ?_
  unfold within
  rw [map_bind]
  refine bind_congr fun machine => ?_
  dsimp only
  split <;> simp

theorem conclude_mapEvaluators (status : UInt32) :
    (inst.mapEvaluators change).conclude status = inst.conclude status := by
  unfold conclude readText
  simp only [region_mapEvaluators, bind_map_left]

theorem evaluation_mapEvaluators (activity : Activity σ) :
    (inst.mapEvaluators change).evaluation activity = inst.evaluation activity := by
  unfold evaluation
  refine bind_congr fun ended => ?_
  exact conclude_mapEvaluators change { inst with globals := ended.1 } ended.2

theorem evaluator?_mapEvaluators :
    (inst.mapEvaluators change).evaluator? = inst.evaluator?.map change := by
  unfold evaluator? mapEvaluators
  simp only [Image.export?_mapEvaluators, Image.hasFunction_mapEvaluators]
  cases inst.image.export? (if inst.image.hasFunction "eval" = true then "eval" else "eval_js") with
  | none => rfl
  | some found => cases found <;> rfl

theorem runWith_mapEvaluators (evaluate : Evaluator σ) (source : String) :
    (inst.mapEvaluators change).runWith evaluate source = inst.runWith evaluate source := by
  unfold runWith
  rw [scriptRegion_mapEvaluators, bind_map_left]
  refine bind_congr fun found => bind_congr fun _ => ?_
  exact evaluation_mapEvaluators change found.1 _

/-- Other evaluators are called where those of the guest would have been. -/
theorem run_mapEvaluators (source : String) :
    (inst.mapEvaluators change).run source =
      match inst.evaluator? with
      | none => Session.fail (.missingExport "eval")
      | some evaluate => inst.runWith (change evaluate) source := by
  rw [run_eq, evaluator?_mapEvaluators]
  cases inst.evaluator? with
  | none => rfl
  | some evaluate => exact runWith_mapEvaluators change inst (change evaluate) source

end Changing

/-! ### Before the evaluation -/

section Locating

variable (inst : Instance σ) (step : ExchangeStep) (machine : Machine)

/-- The machine after some getters of a guest, which run one after the other until one is missing or
does not finish. -/
def afterGetters (image : Image σ) (around : Surroundings) : List String → σ → Machine → Machine
  | [], _, machine => machine
  | name :: later, globals, machine =>
    match image.export? name with
    | some (.getter body) =>
      match machine.run around (body globals) with
      | (.finished globals _, after) => afterGetters image around later globals after
      | (_, after) => after
    | _ => machine

/-- The machine after both accessors of a region. -/
def afterBoth (names : Accessors) : Machine :=
  afterGetters inst.image inst.around [names.start, names.length] inst.globals machine

/-- An accessor gives a word, or no further getter runs. -/
theorem access_cases (name : String) :
    (∃ globals value after,
        (inst.access step name).run machine = (.ok ({ inst with globals }, value), after) ∧
          ∀ later, afterGetters inst.image inst.around (name :: later) inst.globals machine =
            afterGetters inst.image inst.around later globals after) ∨
      ∃ stop after, (inst.access step name).run machine = (.error stop, after) ∧
        ∀ later, afterGetters inst.image inst.around (name :: later) inst.globals machine =
          after := by
  unfold access
  -- Only a getter runs; without one the machine stays as it is.
  cases exported : inst.image.export? name with
  | none => exact .inr ⟨_, machine, rfl, fun _ => by simp [afterGetters, exported]⟩
  | some found =>
    cases found with
    | getter body =>
      dsimp only
      rw [Session.run_bind, Session.call_run]
      rcases ended : machine.run inst.around (body inst.globals) with ⟨ending, after⟩
      cases ending with
      | finished globals value =>
        exact .inl ⟨globals, value, after, rfl, fun _ => by simp [afterGetters, exported, ended]⟩
      | trapped | panicked | waiting =>
        exact .inr ⟨_, after, rfl, fun _ => by simp [afterGetters, exported, ended]⟩
    | memory | action | evaluator | otherFunction =>
      exact .inr ⟨_, machine, rfl, fun _ => by simp [afterGetters, exported]⟩

/-- A region is given by two words, and only its accessors run. -/
theorem region_cases (names : Accessors) :
    (∃ globals, ∃ start length : UInt32, (inst.region step names).run machine =
        (.ok ({ inst with globals }, ⟨start.toNat, length.toNat⟩),
          inst.afterBoth machine names)) ∨
      ∃ stop, (inst.region step names).run machine = (.error stop, inst.afterBoth machine names) := by
  unfold region afterBoth
  rw [Session.run_bind]
  rcases inst.access_cases step machine names.start with
    ⟨globals, start, middle, ended, left⟩ | ⟨stop, middle, ended, left⟩
  · rw [ended, left]
    dsimp only
    rw [Session.run_bind]
    rcases { inst with globals }.access_cases step middle names.length with
      ⟨globals', length, last, ended', left'⟩ | ⟨stop, last, ended', left'⟩
    · rw [ended', left', afterGetters]
      dsimp only
      -- Two words may still be refused as a region, when both accessors have run.
      split
      · exact .inr ⟨_, rfl⟩
      · exact .inl ⟨globals', start, length, rfl⟩
    · rw [ended', left']
      exact .inr ⟨stop, rfl⟩
  · rw [ended, left]
    exact .inr ⟨stop, rfl⟩

/-- The machine after the accessors of the script region, when a guest has both of them and something
to evaluate with. -/
def afterAccessors : Machine :=
  if inst.evaluator?.isSome && (inst.image.hasFunction scriptAccessors.start &&
      inst.image.hasFunction scriptAccessors.length) then
    inst.afterBoth machine scriptAccessors
  else machine

theorem locate_cases (able : inst.evaluator?.isSome = true) :
    (∃ globals, ∃ start length : UInt32, inst.locate.run machine =
        (.ok ({ inst with globals }, ⟨start.toNat, length.toNat⟩), inst.afterAccessors machine)) ∨
      ∃ stop, inst.locate.run machine = (.error stop, inst.afterAccessors machine) := by
  unfold locate afterAccessors
  rw [able, Bool.true_and]
  split
  · exact inst.region_cases .locateScript machine scriptAccessors
  · exact .inl ⟨inst.globals, 0x100000, 65536, rfl⟩

/-- The script region lies within the memory that the accessors leave. -/
theorem scriptRegion_cases (able : inst.evaluator?.isSome = true) :
    (∃ globals, ∃ start length : UInt32, inst.scriptRegion.run machine =
          (.ok ({ inst with globals }, ⟨start.toNat, length.toNat⟩), inst.afterAccessors machine) ∧
        start.toNat + length.toNat ≤ (inst.afterAccessors machine).memory.size) ∨
      ∃ stop, inst.scriptRegion.run machine = (.error stop, inst.afterAccessors machine) := by
  rw [scriptRegion_eq, Session.run_bind]
  rcases inst.locate_cases machine able with ⟨globals, start, length, ended⟩ | ⟨stop, ended⟩
  · rw [ended]
    dsimp only [within]
    rw [Session.run_bind, Session.get_run]
    dsimp only
    split
    · exact .inr ⟨_, rfl⟩
    next inside =>
      exact .inl ⟨globals, start, length, rfl, by simpa [Memory.holds] using inside⟩
  · rw [ended]
    exact .inr ⟨stop, rfl⟩

end Locating

/-! ### The script in its region -/

theorem writeScript_long {span : Span} {script : Bytes} (long : span.length < script.length)
    (machine : Machine) :
    (writeScript span script).run machine =
      (.error (.failed (.scriptTooLarge script.length span.length)), machine) := by
  rw [writeScript_eq, if_pos long]
  rfl

theorem writeScript_fits {span : Span} {script : Bytes} {machine : Machine}
    (fits : script.length ≤ span.length)
    (inside : span.start + span.length ≤ machine.memory.size) :
    (writeScript span script).run machine =
      (.ok (), { machine with memory := machine.memory.patch span.start script }) := by
  have written : machine.memory.write? span.start script =
      some (machine.memory.patch span.start script) :=
    Memory.write?_eq_some_iff.mpr ⟨by omega, rfl⟩
  rw [writeScript_eq, if_neg (by omega), put, Session.run_bind, Session.get_run]
  dsimp only
  rw [written]
  rfl

/-- Why a run does not come to the evaluation. -/
inductive Unready (inst : Instance σ) (source : String) (machine : Machine) : Stop → Prop where
  | noEvaluator (missing : inst.evaluator? = none) :
      Unready inst source machine (.failed (.missingExport "eval"))
  | noRegion {stop : Stop} (able : inst.evaluator?.isSome = true)
      (unfound : (inst.scriptRegion.run machine).1 = .error stop) : Unready inst source machine stop
  | tooLong {ready : Instance σ} {region : Span} (able : inst.evaluator?.isSome = true)
      (found : (inst.scriptRegion.run machine).1 = .ok (ready, region))
      (long : region.length < (Utf8.ofString source).length) :
      Unready inst source machine
        (.failed (.scriptTooLarge (Utf8.ofString source).length region.length))

/-- A run stops before the evaluation and leaves the machine as the accessors did, whatever its
evaluators do. -/
structure StopsEarly (inst : Instance σ) (source : String) (machine : Machine) (stop : Stop) :
    Prop where
  reason : Unready inst source machine stop
  run : (inst.run source).run machine = (.error stop, inst.afterAccessors machine)
  unevaluated : ∀ change,
    ((inst.mapEvaluators change).run source).run machine = (inst.run source).run machine

/-- A script in its region, when the evaluator is called. -/
structure Placing (σ : Type) where
  evaluate : Evaluator σ
  globals : σ
  region : Span
  start : UInt32
  length : UInt32
  machine : Machine

/-- A run places its script and calls the evaluator once, with the span of the script. -/
structure Places (inst : Instance σ) (source : String) (machine : Machine) (placing : Placing σ) :
    Prop where
  evaluator : inst.evaluator? = some placing.evaluate
  region : inst.scriptRegion.run machine =
    (.ok ({ inst with globals := placing.globals }, placing.region), inst.afterAccessors machine)
  start : placing.start.toNat = placing.region.start
  length : placing.length.toNat = (Utf8.ofString source).length
  fits : placing.length.toNat ≤ placing.region.length
  inside : placing.start.toNat + placing.length.toNat ≤ placing.machine.memory.size
  script : placing.machine.memory.slice placing.start.toNat placing.length.toNat =
    Utf8.ofString source
  size : placing.machine.memory.size = (inst.afterAccessors machine).memory.size
  others : ∀ place, place < placing.start.toNat ∨
      placing.start.toNat + placing.length.toNat ≤ place →
    placing.machine.memory.byteAt place = (inst.afterAccessors machine).memory.byteAt place
  state : placing.machine.state = (inst.afterAccessors machine).state
  run : (inst.run source).run machine =
    ({ inst with globals := placing.globals }.evaluation
      (placing.evaluate placing.start placing.length placing.globals)).run placing.machine
  once : ∀ change, ((inst.mapEvaluators change).run source).run machine =
    ({ inst with globals := placing.globals }.evaluation
      (change placing.evaluate placing.start placing.length placing.globals)).run placing.machine

/-- A script at the start of its region. -/
def placeAt (accessed : Machine) (evaluate : Evaluator σ) (globals : σ) (start capacity : UInt32)
    (script : Bytes) : Placing σ where
  evaluate := evaluate
  globals := globals
  region := ⟨start.toNat, capacity.toNat⟩
  start := start
  length := UInt32.ofNat script.length
  machine := { accessed with memory := accessed.memory.patch start.toNat script }

/-- A run that ends the same with all evaluators ends so with its own. -/
theorem stopsEarly_of_same {inst : Instance σ} {source : String} {machine : Machine} {stop : Stop}
    (reason : Unready inst source machine stop)
    (same : ∀ change, ((inst.mapEvaluators change).run source).run machine =
      (.error stop, inst.afterAccessors machine)) : StopsEarly inst source machine stop := by
  have own := same id
  rw [mapEvaluators_id] at own
  exact ⟨reason, own, fun change => (same change).trans own.symm⟩

theorem run_mapEvaluators_of_some {inst : Instance σ} {evaluate : Evaluator σ}
    (found : inst.evaluator? = some evaluate) (change : Evaluator σ → Evaluator σ)
    (source : String) :
    (inst.mapEvaluators change).run source = inst.runWith (change evaluate) source := by
  rw [run_mapEvaluators, found]

/-- A script that fits is evaluated. -/
theorem places_of_fits {inst : Instance σ} {source : String} {machine : Machine}
    {evaluate : Evaluator σ} {globals : σ} {start capacity : UInt32}
    (found : inst.evaluator? = some evaluate)
    (located : inst.scriptRegion.run machine =
      (.ok ({ inst with globals }, ⟨start.toNat, capacity.toNat⟩), inst.afterAccessors machine))
    (inside : start.toNat + capacity.toNat ≤ (inst.afterAccessors machine).memory.size)
    (fits : (Utf8.ofString source).length ≤ capacity.toNat) :
    Places inst source machine (placeAt (inst.afterAccessors machine) evaluate globals start
      capacity (Utf8.ofString source)) := by
  have replaced (change : Evaluator σ → Evaluator σ) :
      ((inst.mapEvaluators change).run source).run machine =
        ({ inst with globals }.evaluation (change evaluate start
            (UInt32.ofNat (Utf8.ofString source).length) globals)).run
          { inst.afterAccessors machine with
            memory := (inst.afterAccessors machine).memory.patch start.toNat
              (Utf8.ofString source) } := by
    rw [run_mapEvaluators_of_some found, runWith, Session.run_bind, located]
    dsimp only
    rw [Session.run_bind, writeScript_fits fits inside]
    dsimp only
    rw [UInt32.ofNat_toNat]
  -- The length of a script that fits its region is a word as well.
  have length : (UInt32.ofNat (Utf8.ofString source).length).toNat =
      (Utf8.ofString source).length :=
    UInt32.toNat_ofNat_of_lt' (Nat.lt_of_le_of_lt fits capacity.toNat_lt_size)
  constructor
  case evaluator => exact found
  case region => exact located
  case start | size | state => rfl
  case length => exact length
  case fits => exact length ▸ fits
  case inside =>
    change start.toNat + (UInt32.ofNat (Utf8.ofString source).length).toNat ≤
      (inst.afterAccessors machine).memory.size
    omega
  case script =>
    dsimp only [placeAt]
    rw [length]
    exact Memory.slice_patch _ _ _
  case others =>
    intro place outside
    dsimp only [placeAt] at outside
    rw [length] at outside
    exact Memory.byteAt_patch_outside outside
  case run =>
    have own := replaced id
    rwa [mapEvaluators_id] at own
  case once => exact replaced

/-- A run evaluates exactly the script that it was given, once, or stops before the evaluation. -/
theorem stopsEarly_or_places (inst : Instance σ) (source : String) (machine : Machine) :
    (∃ stop, StopsEarly inst source machine stop) ∨
      ∃ placing, Places inst source machine placing := by
  cases found : inst.evaluator? with
  | none =>
    -- The accessors run only for a guest that can evaluate.
    have untouched : inst.afterAccessors machine = machine := by simp [afterAccessors, found]
    refine .inl ⟨_, stopsEarly_of_same (.noEvaluator found) fun change => ?_⟩
    rw [run_mapEvaluators, found, untouched]
    rfl
  | some evaluate =>
    have able : inst.evaluator?.isSome = true := by rw [found]; rfl
    rcases inst.scriptRegion_cases machine able with
      ⟨globals, start, capacity, located, inside⟩ | ⟨stop, unfound⟩
    · rcases Nat.lt_or_ge capacity.toNat (Utf8.ofString source).length with long | fits
      · have reason := Unready.tooLong able (by rw [located]) long
        refine .inl ⟨_, stopsEarly_of_same reason fun change => ?_⟩
        rw [run_mapEvaluators_of_some found, runWith, Session.run_bind, located]
        dsimp only
        rw [Session.run_bind, writeScript_long long]
      · exact .inr ⟨_, places_of_fits found located inside fits⟩
    · have reason : Unready inst source machine stop := .noRegion able (by rw [unfound])
      refine .inl ⟨stop, stopsEarly_of_same reason fun change => ?_⟩
      rw [run_mapEvaluators_of_some found, runWith, Session.run_bind, unfound]

/-! ### Failures of a step -/

end Instance

/-- A stop that is no failure of a step. -/
def Stop.Outside (step : ExchangeStep) : Stop → Prop
  | .failed (.exchange taken _) => taken ≠ step
  | _ => True

theorem Stop.Breaks.outside {image : Image σ} {step taken : ExchangeStep} {names : Accessors}
    {stop : Stop} (broke : stop.Breaks image taken names) (other : taken ≠ step) :
    stop.Outside step := by
  cases broke with
  | panicked | waiting => trivial
  | unavailable | unfit => exact other

theorem Stop.Concludes.outside {image : Image σ} {stop : Stop} (concludes : stop.Concludes image) :
    stop.Outside .writeScript := by
  cases concludes with
  | noResult broke | noError broke => exact broke.outside (by decide)
  | refused | script => trivial

namespace Instance

variable (inst : Instance σ)

/-- Writing the script never fails: its region was found to lie within the memory. -/
theorem run_outside_writeScript (source : String) :
    (inst.run source).StopsAs (Stop.Outside .writeScript) := by
  intro machine stop after ended
  rcases inst.stopsEarly_or_places source machine with ⟨reached, early⟩ | ⟨placing, places⟩
  · rw [early.run] at ended
    cases ended
    cases early.reason with
    | noEvaluator | tooLong => trivial
    | noRegion _ unfound =>
      exact (inst.scriptRegion_breaks machine _ _ (Prod.ext unfound rfl)).outside (by decide)
  · rw [places.run] at ended
    refine Session.StopsAs.bind (Session.call_stopsAs trivial trivial trivial) (fun called => ?_)
      _ _ _ ended
    exact (conclude_stops _ _).mono fun _ => Stop.Concludes.outside

/-- A run evaluates exactly the script that it was given, at most once. -/
theorem run_evaluates_its_script (source : String) (machine : Machine) :
    ((∃ stop, StopsEarly inst source machine stop) ∨
        ∃ placing, Places inst source machine placing) ∧
      ∀ cause, ((inst.run source).run machine).1 ≠
        .error (.failed (.exchange .writeScript cause)) := by
  refine ⟨inst.stopsEarly_or_places source machine, fun cause failed => ?_⟩
  exact inst.run_outside_writeScript source machine _ _ (Prod.ext failed rfl) rfl

end Instance

end ScriptSandbox.Guest
