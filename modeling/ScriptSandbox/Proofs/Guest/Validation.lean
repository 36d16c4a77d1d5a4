import ScriptSandbox.Proofs.Guest.Evaluation
import ScriptSandbox.Proofs.Guest.Record

/-!
# What validation promises

A module that passes validation has the exports that every run needs, as functions; their types are
only seen when a run looks for them. So no instance fails for want of an export. A run fails so
exactly when the function to evaluate with is of another type, even where the other one would do,
and an accessor of the result or of the error text is unavailable only when it is of another type.
-/
namespace ScriptSandbox.Guest

variable {σ : Type}

/-! ### Exports and their types -/

namespace Export

/-- Whether a function is of the type that a run evaluates with. -/
def isEvaluator : Export σ → Bool
  | evaluator _ => true
  | _ => false

/-- Whether a function is of the type of an accessor. -/
def isGetter : Export σ → Bool
  | getter _ => true
  | _ => false

end Export

namespace Image

variable {image : Image σ} {name : String}

/-- A function is exported under a name, but it is of another type. -/
def Mistyped (image : Image σ) (fits : Export σ → Bool) (name : String) : Prop :=
  ∃ found, image.export? name = some found ∧ found.isFunction = true ∧ fits found = false

/-- The name of the function that a run evaluates with. -/
def evaluatorName (image : Image σ) : String := if image.hasFunction "eval" then "eval" else "eval_js"

theorem lookup_of_mem {exports : List (String × Export σ)} (distinct : (exports.map Prod.fst).Nodup)
    {found : Export σ} (listed : (name, found) ∈ exports) : exports.lookup name = some found := by
  induction exports with
  | nil => cases listed
  | cons entry rest ih =>
    obtain ⟨other, export_⟩ := entry
    obtain ⟨absent, distinct⟩ := List.nodup_cons.mp distinct
    rcases List.mem_cons.mp listed with here | later
    · cases here
      simp
    · have differ : (name == other) = false := by
        refine beq_eq_false_iff_ne.mpr ?_
        rintro rfl
        exact absent (List.mem_map.mpr ⟨_, later, rfl⟩)
      rw [List.lookup_cons, differ]
      exact ih distinct later

theorem export?_of_hasFunction (fitting : image.isValid = true) (has : image.hasFunction name = true) :
    ∃ found, image.export? name = some found ∧ found.isFunction = true := by
  have distinct : (image.exports.map Prod.fst).Nodup := by
    simpa using (Bool.and_eq_true_iff.mp fitting).2
  have among : name ∈ image.functionNames := by simpa [hasFunction] using has
  obtain ⟨⟨_, found⟩, member, rfl⟩ := List.mem_map.mp among
  obtain ⟨listed, function⟩ := List.mem_filter.mp member
  exact ⟨found, lookup_of_mem distinct listed, function⟩

/-- A module whose parts fit together, with every export that validation asks for. -/
structure Complete (image : Image σ) : Prop where
  fitting : image.isValid = true
  memory : image.exportsMemory = true
  evaluator : image.hasFunction image.evaluatorName = true
  accessors : ∀ name ∈ required, image.hasFunction name = true

theorem complete_of_validate (fitting : image.isValid = true) (valid : image.validate = .ok ()) :
    image.Complete := by
  unfold validate at valid
  split at valid
  next => cases valid
  next memory =>
    split at valid
    next => cases valid
    next either =>
      split at valid
      next => cases valid
      next none =>
        refine ⟨fitting, by simpa using memory, ?_, fun name needed => ?_⟩
        · -- One of the two names is a function's, and the preferred one is taken where it is.
          unfold evaluatorName
          split
          next preferred => exact preferred
          next missing => simpa [missing] using either
        · simpa using List.find?_eq_none.mp none name needed

/-- A function that is exported and is not of the type is mistyped. -/
theorem Complete.mistyped (complete : image.Complete) (has : image.hasFunction name = true)
    {fits : Export σ → Bool} (unfit : ∀ found, image.export? name = some found → fits found = false) :
    image.Mistyped fits name := by
  obtain ⟨found, exported, function⟩ := export?_of_hasFunction complete.fitting has
  exact ⟨found, exported, function, unfit found exported⟩

end Image

/-! ### The first look at the exports -/

open Session (get_stopsAs fail_stopsAs call_stopsAs)

namespace Engine

variable (engine : Engine) (module : Module σ) (host : Bridge.Host)

theorem instantiate_image :
    (engine.instantiate module host).Gives fun inst => inst.image = module.image := by
  rw [instantiate_eq]
  exact .bind fun _ => .bind fun _ => .bind fun _ => Session.pure_gives rfl

/-- A module with a memory is instantiated, or fails for another reason than an export. -/
theorem instantiate_complete (memory : module.image.exportsMemory = true) :
    (engine.instantiate module host).StopsAs fun stop =>
      ∀ name, stop ≠ .failed (.missingExport name) := by
  refine (engine.instantiate_stops module host).mono fun stop broke => ?_
  cases broke with
  | panicked | waiting | engine => simp
  | noMemory lacks =>
    rw [memory] at lacks
    cases lacks

end Engine

/-! ### Runs -/

/-- A stop that says nothing of exports but that an accessor of the result or of the error text is
mistyped. -/
structure Stop.BlamesType (image : Image σ) (stop : Stop) : Prop where
  complete : ∀ name, stop ≠ .failed (.missingExport name)
  accessor : ∀ step name, stop = .failed (.exchange step (.unavailable name)) →
    step ≠ .locateScript → name ∈ Image.required ∧ image.Mistyped Export.isGetter name

section

variable {image : Image σ} {step : ExchangeStep} {names : Accessors} {stop : Stop}

/-- A step that asks for accessors in a complete module breaks off for want of one only when it is
mistyped, unless validation does not ask for them. -/
theorem Stop.Breaks.blamesType (broke : stop.Breaks image step names) (complete : image.Complete)
    (needed : step ≠ .locateScript → ∀ name ∈ [names.start, names.length], name ∈ Image.required) :
    stop.BlamesType image := by
  cases broke with
  | panicked | waiting => exact ⟨by simp, by simp⟩
  | unfit found =>
    refine ⟨by simp, ?_⟩
    rintro _ name ⟨⟩ -
    exact absurd rfl (found name)
  | @unavailable name asked missing =>
    refine ⟨by simp, ?_⟩
    rintro _ _ ⟨⟩ other
    have required := needed other name asked
    refine ⟨required, complete.mistyped (complete.accessors name required) ?_⟩
    intro found exported
    cases found with
    | getter body => exact absurd exported (missing body)
    | memory | action | evaluator | otherFunction => rfl

/-- Validation asks for the accessors of both texts. -/
theorem Stop.Concludes.blamesType (concludes : stop.Concludes image) (complete : image.Complete) :
    stop.BlamesType image := by
  cases concludes with
  | noResult broke => exact broke.blamesType complete fun _ => by decide
  | noError broke => exact broke.blamesType complete fun _ => by decide
  | refused | script => exact ⟨by simp, by simp⟩

end

namespace Instance

variable {image : Image σ} {inst : Instance σ} {step : ExchangeStep}

theorem writeScript_blamesType (span : Span) (script : Bytes) :
    (writeScript span script).StopsAs (Stop.BlamesType image) := by
  rw [writeScript_eq]
  split
  next => exact fail_stopsAs ⟨by simp, by simp⟩
  next =>
    refine get_stopsAs.bind fun machine => ?_
    split
    next =>
      intro _ _ _ ended
      cases ended
    next => exact fail_stopsAs ⟨by simp, by simp⟩

theorem scriptRegion_image (able : inst.evaluator?.isSome = true) :
    inst.scriptRegion.Gives fun found => found.1.image = inst.image := by
  intro machine value after ended
  rcases inst.scriptRegion_cases machine able with
    ⟨globals, start, length, found, _⟩ | ⟨stop, failed⟩
  · rw [found] at ended
    cases ended
    rfl
  · rw [failed] at ended
    cases ended

theorem run_blamesType (complete : image.Complete) (own : inst.image = image)
    (able : inst.evaluator?.isSome = true) (source : String) :
    (inst.run source).StopsAs (Stop.BlamesType image) := by
  subst own
  obtain ⟨evaluate, found⟩ := Option.isSome_iff_exists.mp able
  rw [run_eq, found]
  dsimp only
  unfold runWith evaluation
  -- The accessors of the script are not asked for by validation, and may be missing.
  have located : inst.scriptRegion.StopsAs (Stop.BlamesType inst.image) :=
    inst.scriptRegion_breaks.mono fun _ broke => broke.blamesType complete fun other => absurd rfl other
  refine located.bind_given (scriptRegion_image able) fun ready same => ?_
  refine (writeScript_blamesType _ _).bind fun _ => ?_
  refine (call_stopsAs ⟨by simp, by simp⟩ ⟨by simp, by simp⟩ ⟨by simp, by simp⟩).bind fun ended => ?_
  refine (conclude_stops _ _).mono fun _ concludes => ?_
  exact same ▸ concludes.blamesType (same ▸ complete)

theorem evaluator?_eq_some_iff (own : inst.image = image)
    {body : (start length : UInt32) → σ → Activity σ} :
    inst.evaluator? = some body ↔ image.export? image.evaluatorName = some (.evaluator body) := by
  subst own
  unfold evaluator? Image.evaluatorName
  dsimp only
  split
  next exported => simp [exported]
  next other => exact ⟨nofun, fun exported => absurd exported (other body)⟩

theorem evaluator?_eq_none_iff (complete : image.Complete) (own : inst.image = image) :
    inst.evaluator? = none ↔ image.Mistyped Export.isEvaluator image.evaluatorName := by
  constructor
  · intro none
    refine complete.mistyped complete.evaluator fun found exported => ?_
    cases found with
    | evaluator body =>
      have able := (evaluator?_eq_some_iff own).mpr exported
      rw [none] at able
      cases able
    | memory | action | getter | otherFunction => rfl
  · rintro ⟨found, exported, -, unfit⟩
    refine Option.eq_none_iff_forall_ne_some.mpr fun body able => ?_
    rw [(evaluator?_eq_some_iff own).mp able] at exported
    cases exported
    cases unfit

/-- A run fails for want of an export exactly when there is no evaluator for it. -/
theorem run_missing_iff (complete : image.Complete) (own : inst.image = image) (source : String)
    (machine : Machine) :
    (∃ lacking after, (inst.run source).run machine =
        (.error (.failed (.missingExport lacking)), after)) ↔
      image.Mistyped Export.isEvaluator image.evaluatorName := by
  rw [← evaluator?_eq_none_iff complete own]
  constructor
  · rintro ⟨lacking, after, ended⟩
    cases found : inst.evaluator? with
    | none => rfl
    | some evaluate =>
      have able : inst.evaluator?.isSome = true := by rw [found, Option.isSome_some]
      have blames := run_blamesType complete own able source _ _ _ ended
      exact absurd rfl (blames.complete lacking)
  · intro none
    refine ⟨"eval", machine, ?_⟩
    rw [run_eq, none]
    rfl

theorem run_unavailable (complete : image.Complete) (own : inst.image = image) {source : String}
    {machine after : Machine} {accessor : String}
    (ended : (inst.run source).run machine =
      (.error (.failed (.exchange step (.unavailable accessor))), after))
    (other : step ≠ .locateScript) :
    accessor ∈ Image.required ∧ image.Mistyped Export.isGetter accessor := by
  cases found : inst.evaluator? with
  | none =>
    rw [run_eq, found] at ended
    cases ended
  | some evaluate =>
    have able : inst.evaluator?.isSome = true := by rw [found, Option.isSome_some]
    exact (run_blamesType complete own able source _ _ _ ended).accessor step accessor rfl other

/-- The text that an evaluation leaves with a status: when it is read, and its accessors. -/
def textOf (status : UInt32) : ExchangeStep × Accessors :=
  if status.toInt32 = Status.success.code then (.readResult, resultAccessors)
  else (.readError, errorAccessors)

/-- A run has no end where the accessor is mistyped of the text that the evaluation left. -/
theorem conclude_unavailable (inst : Instance σ) (own : inst.image = image) (status : UInt32)
    (mistyped : image.Mistyped Export.isGetter (textOf status).2.start) (machine : Machine) :
    (inst.conclude status).run machine =
      (.error (.failed (.exchange (textOf status).1 (.unavailable (textOf status).2.start))),
        machine) := by
  obtain ⟨found, exported, -, unfit⟩ := mistyped
  -- The start of the text is asked for first, so nothing has run when it turns out to be no getter.
  have unavailable : inst.readText (textOf status).1 (textOf status).2 =
      Session.fail (.exchange (textOf status).1 (.unavailable (textOf status).2.start)) := by
    unfold readText region access
    rw [own, exported]
    cases found with
    | getter => cases unfit
    | memory | action | evaluator | otherFunction => simp
  unfold conclude
  split
  next success =>
    rw [textOf, if_pos success] at unavailable ⊢
    rw [unavailable]
    rfl
  next failure =>
    rw [textOf, if_neg failure] at unavailable ⊢
    rw [unavailable]
    rfl

end Instance

/-- An instance of a module that passes validation never fails for want of an export. Its runs fail
so exactly when the function to evaluate with is mistyped. An accessor of the result or of the error
text is unavailable to a run only when it is mistyped, and then each run fails that comes to the
text. -/
theorem validated_runs_fail_by_types {image : Image σ} (fitting : image.isValid = true)
    (valid : image.validate = .ok ()) (engine : Engine) (name : String) (host : Bridge.Host)
    (machine : Machine) :
    let session := engine.instantiate ⟨name, image⟩ host
    (∀ lacking after, session.run machine ≠ (.error (.failed (.missingExport lacking)), after)) ∧
    ∀ inst ready, session.run machine = (.ok inst, ready) →
      (∀ source, (∃ lacking after,
          (inst.run source).run ready = (.error (.failed (.missingExport lacking)), after)) ↔
        image.Mistyped Export.isEvaluator image.evaluatorName) ∧
      (∀ source step accessor after, (inst.run source).run ready =
          (.error (.failed (.exchange step (.unavailable accessor))), after) →
        step ≠ .locateScript →
        accessor ∈ Image.required ∧ image.Mistyped Export.isGetter accessor) ∧
      (∀ globals status left, image.Mistyped Export.isGetter (Instance.textOf status).2.start →
        ({ inst with globals }.conclude status).run left =
          (.error (.failed (.exchange (Instance.textOf status).1
            (.unavailable (Instance.textOf status).2.start))), left)) := by
  have complete := Image.complete_of_validate fitting valid
  intro session
  constructor
  · intro lacking after ended
    exact Engine.instantiate_complete engine ⟨name, image⟩ host complete.memory _ _ _ ended lacking rfl
  · intro inst ready instantiated
    have own : inst.image = image := Engine.instantiate_image _ _ _ _ _ _ instantiated
    refine ⟨fun source => Instance.run_missing_iff complete own source ready, ?_, ?_⟩
    · intro source step accessor after ended located
      exact Instance.run_unavailable complete own ended located
    · intro globals status left mistyped
      exact Instance.conclude_unavailable { inst with globals } own status mistyped left

/-! ### An evaluator of another type -/

namespace HiddenEvaluator

/-- A module with a function of another type in the place of the preferred evaluator. The other one
would do. -/
def image : Image Unit where
  pages := 1
  maxPages := none
  data := []
  globals := ()
  start := none
  exports := [("memory", .memory), ("eval", .otherFunction),
    ("eval_js", .evaluator fun _ _ _ => .finish () 0)] ++
    Image.required.map fun name => (name, .getter fun _ => .finish () 0)

def machine : Machine := ⟨.ofPages 0, ⟨{}, {}⟩⟩

def host : Bridge.Host := ⟨{}, ⟨⟨["box"], none⟩, .ofPolicy {} .offline, fun _ => {}⟩⟩

/-- The module passes validation, and no script can be run with it. -/
theorem validated_module_unusable : image.isValid = true ∧ image.validate = .ok () ∧
    ∃ inst ready,
      (Engine.instantiate ⟨{}⟩ ⟨"unit", image⟩ host).run machine = (.ok inst, ready) ∧
      ∀ source, ∃ lacking after,
        (inst.run source).run ready = (.error (.failed (.missingExport lacking)), after) := by
  have fitting : image.isValid = true := by decide
  have valid : image.validate = .ok () := by rfl
  refine ⟨fitting, valid, _, _, rfl, fun source => ?_⟩
  exact ((validated_runs_fail_by_types fitting valid ⟨{}⟩ "unit" host machine).2 _ _ rfl).1 source
    |>.mpr ⟨.otherFunction, rfl, rfl, rfl⟩

end HiddenEvaluator

end ScriptSandbox.Guest
