import ScriptSandbox.Proofs.Guest.History
import ScriptSandbox.Proofs.Guest.Memory
import ScriptSandbox.Proofs.Guest.Running

/-!
# How texts get from a guest to its host

A guest puts a text into a region, and the host reads the content of the region out of the guest's
memory. The region cuts a text that is too long between two characters, so the host decodes what was
kept without a loss, and a result that fits its region is the value of the run.
-/
namespace ScriptSandbox.Guest

open Utf8

variable {σ : Type}

/-! ### Regions -/

/-- What a region keeps of a text that it is set to. -/
structure TextRegion.Keeps (region : TextRegion) (text kept : List Char) : Prop where
  longest : Longest region.capacity text kept
  content : (region.set text).content = encode kept
  capacity : (region.set text).capacity = region.capacity
  whole : (encode text).length ≤ region.capacity → kept = text
  almost_full : region.capacity < (encode text).length →
    region.capacity ≤ (encode kept).length + 3

theorem TextRegion.exists_keeps (region : TextRegion) (text : List Char) :
    ∃ kept, region.Keeps text kept := by
  obtain ⟨kept, longest, fitting⟩ := fitting_encode region.capacity text
  refine ⟨kept, longest, ?_, capacity_set region text, fun fits => ?_, longest.almost_full⟩
  · rw [content_set, fitting]
  · exact longest.unique (.whole fits)

/-! ### Through the memory -/

/-- A region in the memory of a guest, which two of its accessors show to the host. -/
structure Mapped (inst : Instance σ) (step : ExchangeStep) (names : Accessors) (machine : Machine)
    (region : TextRegion) where
  start : UInt32
  asked : Instance σ
  starts : (inst.access step names.start).run machine = (.ok (asked, start), machine)
  after : Instance σ
  ends : (asked.access step names.length).run machine =
    (.ok (after, UInt32.ofNat region.used), machine)
  held : machine.memory.read? start.toNat region.capacity = some region.bytes
  /-- What a guest keeps in one piece takes less than half of its address space. -/
  addressable : region.capacity < 0x80000000

theorem toNat_ofNat_of_addressable {count : Nat} (small : count < 0x80000000) :
    (UInt32.ofNat count).toNat = count ∧ ¬ (UInt32.ofNat count).toInt32 < 0 := by
  have same : (UInt32.ofNat count).toInt32.toInt = count := Int32.toInt_ofNat_of_lt small
  refine ⟨UInt32.toNat_ofNat_of_lt' (Nat.lt_trans small (by decide)), ?_⟩
  rw [Int32.lt_iff_toInt_lt, same, Int32.toInt_zero]
  omega

section

variable {inst : Instance σ} {step : ExchangeStep} {names : Accessors} {machine : Machine}
  {region : TextRegion} {text : List Char}

theorem Mapped.readText (mapped : Mapped inst step names machine region)
    (within : region.used ≤ region.capacity) :
    (inst.readText step names).run machine = (.ok (toStringLossy region.content), machine) := by
  obtain ⟨same, positive⟩ :=
    toNat_ofNat_of_addressable (Nat.lt_of_le_of_lt within mapped.addressable)
  have located := Instance.region_of_words mapped.starts mapped.ends positive
  rw [same] at located
  exact Instance.readText_of_region located (Memory.read?_take mapped.held within)

theorem Mapped.readText_of_keeps {kept : List Char} (keeps : region.Keeps text kept)
    (mapped : Mapped inst step names machine (region.set text)) :
    (inst.readText step names).run machine = (.ok (String.ofList kept), machine) := by
  rw [mapped.readText (TextRegion.used_set_le region text), keeps.content, toStringLossy_encode]

end

/-! ### Results of runs -/

/-- The run of a script whose evaluation gives a text. The guest, which may have served other calls
before, keeps it in its region for results. -/
structure Returned (inst : Instance σ) (source : String) (machine : Machine) (text : String) where
  ready : Instance σ
  activity : Activity σ
  started : Machine
  prepared : (inst.prepare source).run machine = (.ok (ready, activity), started)
  globals : σ
  status : UInt32
  evaluated : Machine
  finished : started.run ready.around activity = (.finished globals status, evaluated)
  runner : Runner
  history : List Visit
  call : Call
  outcome : runner.outcome call.source? = .ok text
  answered : status.toInt32 = ((Core.after runner history).evaluate runner call).2.code
  mapped : Mapped { ready with globals } .readResult resultAccessors evaluated
    ((Core.after runner history).evaluate runner call).1.result

theorem Instance.conclude_of_result {inst : Instance σ} {status : UInt32} {machine final : Machine}
    {value : String} (success : status.toInt32 = Status.success.code)
    (read : (inst.readText .readResult resultAccessors).run machine = (.ok value, final)) :
    ((inst.conclude status).run machine).1 = .ok ⟨value, final.state.run.log⟩ := by
  unfold conclude
  rw [if_pos success, Session.run_bind, read]
  rfl

theorem Returned.value {inst : Instance σ} {source text : String} {machine : Machine}
    (returned : Returned inst source machine text) :
    ∃ value, TextRegion.Longest resultCapacity text.toList value.toList ∧
      ((inst.run source).run machine).1 = .ok ⟨value, returned.evaluated.state.run.log⟩ := by
  have sized : (Core.after returned.runner returned.history).Sized := .after _
  have mapped := returned.mapped
  have success := returned.answered
  rw [Core.evaluate_eq, returned.outcome] at mapped success
  obtain ⟨kept, keeps⟩ :=
    (Core.after returned.runner returned.history).clear.result.exists_keeps text.toList
  have room : (Core.after returned.runner returned.history).clear.result.capacity =
      resultCapacity := sized.result
  refine ⟨String.ofList kept, ?_, ?_⟩
  · rw [String.toList_ofList, ← room]
    exact keeps.longest
  · rw [Instance.run_finished returned.prepared returned.finished]
    exact Instance.conclude_of_result success (mapped.readText_of_keeps keeps)

/-- A region keeps as much of a text as fits it between two characters, and the host reads exactly
what is kept. So the value of a run is the result of its script, all of it if it fits the region. -/
theorem texts_cross_regions :
    (∀ (region : TextRegion) (text : List Char), ∃ kept, region.Keeps text kept ∧
      ∀ {σ : Type} (inst : Instance σ) (step : ExchangeStep) (names : Accessors)
        (machine : Machine), Mapped inst step names machine (region.set text) →
        (inst.readText step names).run machine = (.ok (String.ofList kept), machine)) ∧
    ∀ {σ : Type} (inst : Instance σ) (source text : String) (machine : Machine)
      (returned : Returned inst source machine text), ∃ value,
        ((inst.run source).run machine).1 = .ok ⟨value, returned.evaluated.state.run.log⟩ ∧
          TextRegion.Longest resultCapacity text.toList value.toList ∧
          ((ofString text).length ≤ resultCapacity → value = text) := by
  constructor
  · intro region text
    obtain ⟨kept, keeps⟩ := region.exists_keeps text
    exact ⟨kept, keeps, fun _ _ _ _ mapped => mapped.readText_of_keeps keeps⟩
  · intro σ inst source text machine returned
    obtain ⟨value, longest, outcome⟩ := returned.value
    refine ⟨value, outcome, longest, fun fits => ?_⟩
    exact String.toList_inj.mp (longest.unique (.whole fits))

/-! ### A result with wide characters -/

namespace WideResult

def text : String := "naïve €"

/-- Gives the same text for every source. -/
def runner : Runner where
  runtime := .ok ()
  context := .ok ()
  bridge := .ok ()
  run _ := .completed (some text)
  sum := .ok 2
  grants _ := true

/-- The call that a host makes for an empty script. -/
def call : Call where
  memory := .ofPages 32
  pointer := UInt32.ofNat legacyRegion.start
  length := 0
  within := .inr (by decide)

/-- The region for results after the evaluation. -/
def region : TextRegion := (({} : Core).evaluate runner call).1.result

theorem region_eq : region = (TextRegion.ofCapacity resultCapacity).clear.set text.toList := by
  have outcome : runner.outcome call.source? = .ok text := rfl
  rw [region, Core.evaluate_eq, outcome]
  rfl

theorem capacity_region : region.capacity = resultCapacity := by
  rw [region_eq, TextRegion.capacity_set, TextRegion.capacity_clear, TextRegion.capacity_ofCapacity]

def filled : Memory := ⟨32 * Memory.pageSize, fun place => region.bytes.getD place 0⟩

/-- A guest that keeps its region for results at the start of its memory. -/
def inst : Instance Unit where
  image := {
    pages := 32, maxPages := none, data := [], globals := (), start := none
    exports := [
      ("eval", .evaluator fun _ _ _ => .store filled.byteAt (.finish () 0)),
      ("get_result_ptr", .getter fun _ => .finish () 0),
      ("get_result_len", .getter fun _ => .finish () (UInt32.ofNat region.used))] }
  around := ⟨⟨{}, ⟨⟨["box"], none⟩, .ofPolicy {} .offline, fun _ => {}⟩⟩, ⟨none, 0⟩, true⟩
  globals := ()

def machine : Machine := ⟨.ofPages 32, ⟨{}, {}⟩⟩

def evaluated : Machine := ⟨filled, ⟨{}, {}⟩⟩

theorem prepared : (inst.prepare "").run machine =
    (.ok (inst, .store filled.byteAt (.finish () 0)), machine) := by
  have evaluator : inst.evaluator? = some fun _ _ _ => .store filled.byteAt (.finish () 0) := rfl
  exact Instance.prepare_empty evaluator rfl rfl

theorem held : filled.read? 0 region.capacity = some region.bytes := by
  have starts : filled.byteAt = fun place => region.bytes.getD place 0 := by simp only [filled]
  refine Memory.read_start starts ?_
  rw [← TextRegion.capacity, capacity_region]
  decide

def returned : Returned inst "" machine text where
  ready := inst
  activity := .store filled.byteAt (.finish () 0)
  started := machine
  prepared := prepared
  globals := ()
  status := 0
  evaluated := evaluated
  finished := by simp only [Machine.run, machine, evaluated, filled, Memory.ofPages]
  runner := runner
  history := []
  call := call
  outcome := rfl
  answered := rfl
  mapped := {
    start := 0
    asked := inst
    starts := rfl
    after := inst
    ends := rfl
    held := held
    addressable := by
      change region.capacity < 0x80000000
      rw [capacity_region]
      decide }

/-- Nothing of the result is lost. -/
theorem wide_result_arrives : ((inst.run "").run machine).1 = .ok ⟨text, []⟩ := by
  obtain ⟨value, outcome, -, whole⟩ := texts_cross_regions.2 inst "" text machine returned
  have fits : (ofString text).length ≤ resultCapacity := by decide
  obtain rfl := whole fits
  exact outcome

end WideResult

end ScriptSandbox.Guest
