import ScriptSandbox.Proofs.Guest.Running

/-!
# How an exchange with a guest breaks off

A step of the exchange asks a guest's accessors for a region, and looks whether the region fits. It
breaks off while an accessor runs, because an accessor is not exported as one, or because of what
the accessors gave. What a run has to tell beyond that is its refusal or its script's failure.
-/
namespace ScriptSandbox.Guest

variable {σ : Type}

/-- How a step breaks off that asks the accessors of a module for a region. -/
inductive Stop.Breaks (image : Image σ) (step : ExchangeStep) (names : Accessors) :
    Stop → Prop where
  | panicked : Breaks image step names .panicked
  | waiting : Breaks image step names .waiting
  | unavailable {name : String} (asked : name ∈ [names.start, names.length])
      (missing : ∀ body, image.export? name ≠ some (.getter body)) :
      Breaks image step names (.failed (.exchange step (.unavailable name)))
  | unfit {cause : ExchangeFault} (found : ∀ name, cause ≠ .unavailable name) :
      Breaks image step names (.failed (.exchange step cause))

/-- How a run stops when its evaluation has ended: the text that this left cannot be read, or it says
what made the run fail. -/
inductive Stop.Concludes (image : Image σ) : Stop → Prop where
  | noResult {stop : Stop} (broke : stop.Breaks image .readResult resultAccessors) :
      Concludes image stop
  | noError {stop : Stop} (broke : stop.Breaks image .readError errorAccessors) :
      Concludes image stop
  | refused (message : String) : Concludes image (.failed (.refused (.other message)))
  | script (failure : Script.Failure) : Concludes image (.failed (.script failure))

namespace Instance

open Session (pure_stopsAs get_stopsAs set_stopsAs fail_stopsAs call_stopsAs pure_gives)

variable (inst : Instance σ) {step : ExchangeStep} {names : Accessors}

/-- Getters leave an instance with the exports that it had. -/
theorem access_image (step : ExchangeStep) (name : String) :
    (inst.access step name).Gives fun found => found.1.image = inst.image := by
  unfold access
  split
  · exact .bind fun _ => pure_gives rfl
  · exact fun _ _ _ ended => nomatch ended

theorem access_breaks {name : String} (asked : name ∈ [names.start, names.length]) :
    (inst.access step name).StopsAs (Stop.Breaks inst.image step names) := by
  unfold access
  split
  next =>
    exact (call_stopsAs (.unfit (by simp)) .panicked .waiting).bind fun _ => pure_stopsAs _
  next other => exact fail_stopsAs (.unavailable asked other)

theorem region_breaks :
    (inst.region step names).StopsAs (Stop.Breaks inst.image step names) := by
  unfold region
  -- The second accessor is looked up in the instance that the first one leaves.
  refine (inst.access_breaks (by simp)).bind_given (inst.access_image step names.start)
    fun found same => ?_
  rw [← same]
  refine (found.1.access_breaks (by simp)).bind fun _ => ?_
  dsimp only
  split
  · exact (fail_stopsAs (.unfit (by simp))).bind fun _ => pure_stopsAs _
  · exact pure_stopsAs _

theorem readText_breaks :
    (inst.readText step names).StopsAs (Stop.Breaks inst.image step names) := by
  unfold readText
  refine inst.region_breaks.bind fun _ => get_stopsAs.bind fun _ => ?_
  split
  · exact pure_stopsAs _
  · exact fail_stopsAs (.unfit (by simp))

theorem scriptRegion_breaks :
    inst.scriptRegion.StopsAs (Stop.Breaks inst.image .locateScript scriptAccessors) := by
  rw [scriptRegion_eq]
  refine Session.StopsAs.bind ?_ fun found => get_stopsAs.bind fun _ => ?_
  · unfold locate
    split
    · exact inst.region_breaks
    · exact pure_stopsAs _
  · split
    · exact fail_stopsAs (.unfit (by simp))
    · exact pure_stopsAs _

theorem takeLog_stopsAs {kind : Stop → Prop} : takeLog.StopsAs kind :=
  get_stopsAs.bind fun _ => (set_stopsAs _).bind fun _ => pure_stopsAs _

theorem conclude_stops (status : UInt32) :
    (inst.conclude status).StopsAs (Stop.Concludes inst.image) := by
  unfold conclude
  split
  · refine (inst.readText_breaks.mono fun _ => .noResult).bind fun _ => ?_
    exact takeLog_stopsAs.bind fun _ => pure_stopsAs _
  · refine (inst.readText_breaks.mono fun _ => .noError).bind fun raw => ?_
    refine takeLog_stopsAs.bind fun logs => get_stopsAs.bind fun machine => fail_stopsAs ?_
    -- The failure of the script, or a refusal that it goes back to.
    rcases machine.state.run.faultOf_cases { Script.Failure.ofGuest status.toInt32 raw with logs }
      with ⟨message, told⟩ | plain
    · rw [told]
      exact .refused message
    · rw [plain]
      exact .script _

end Instance

end ScriptSandbox.Guest
