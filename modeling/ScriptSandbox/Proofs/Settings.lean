import ScriptSandbox.Guest.EngineConfig
import ScriptSandbox.Proofs.Files.Storage
import ScriptSandbox.Proofs.Json.Shapes
import ScriptSandbox.Script.Failure

/-!
# Settings and failures as texts

Policies, engine configurations and failures of scripts are written as JSON objects, and come back
from their texts as they were. Only the consent functions of a policy are not written.
-/
namespace ScriptSandbox

open Json (Shape)

/-! ### Policies -/

theorem Policy.unsigned_takes (expected : String) (value : UInt64) (depth : Nat) :
    (Policy.unsigned expected).Takes depth (.int value.toNat) value := by
  have bound := value.toNat_lt
  have size : UInt64.size = 18446744073709551616 := rfl
  have least : Int64.minValue.toInt = -9223372036854775808 := rfl
  have number : (Shape.integer 0 (UInt64.size - 1) expected).Takes depth (.int value.toNat)
      value.toNat := .integer _ (by omega) (by omega) (by omega) (by omega) _
  have same := number.map fun value => UInt64.ofNat value.toNat
  rwa [Int.toNat_natCast, UInt64.ofNat_toNat] at same

/-- A policy without its consent functions, which are not written. -/
def Policy.withoutConsents (policy : Policy) : Policy :=
  { policy with fileConsent := none, networkConsent := none }

theorem Policy.shape_takes (policy : Policy) (depth : Nat) :
    Policy.shape.Takes (depth + 2) policy.toJson policy.withoutConsents := by
  have least := policy.defaultTimeout.minValue_le_toInt
  have most := policy.defaultTimeout.toInt_le
  have size : UInt64.size = 18446744073709551616 := rfl
  have high : Int64.maxValue.toInt = 9223372036854775807 := rfl
  have limit : (Shape.integer Int64.minValue.toInt Int64.maxValue.toInt "i64").Takes (depth + 1)
      (.int policy.defaultTimeout.toInt) policy.defaultTimeout.toInt :=
    .integer _ least most least (by omega) _
  have timeout := limit.map
    fun limit (policy : Policy) => { policy with defaultTimeout := Int64.ofInt limit }
  rw [Int64.ofInt_toInt] at timeout
  refine .record _ (by decide) ?_
  refine .cons (.map (.text _ policy.root _) _) ?_
  refine .cons timeout ?_
  refine .cons (.map (.strings policy.allowedDomains _) _) ?_
  refine .cons (.map (unsigned_takes _ policy.maxResponseBytes _) _) ?_
  refine .cons (.map (unsigned_takes _ policy.requestTimeout _) _) ?_
  refine .cons (.map (.strings policy.startupScripts _) _) ?_
  exact .nil

/-! ### Engine configurations -/

theorem Guest.EngineConfig.shape_takes (config : EngineConfig) (depth : Nat) :
    EngineConfig.shape.Takes (depth + 1) config.toJson config := by
  have small := config.optimization.toNat_lt
  have size : UInt64.size = 18446744073709551616 := rfl
  have least : Int64.minValue.toInt = -9223372036854775808 := rfl
  have number : (Shape.integer 0 255 "u8").Takes depth (.int config.optimization.toNat)
      config.optimization.toNat := .integer _ (by omega) (by omega) (by omega) (by omega) _
  have level := number.map
    fun level (config : EngineConfig) => { config with optimization := UInt8.ofNat level.toNat }
  rw [Int.toNat_natCast, UInt8.ofNat_toNat] at level
  refine .record _ (by decide) ?_
  refine .cons (.map (Policy.unsigned_takes _ config.maxMemory _) _) ?_
  refine .cons level ?_
  refine .cons (.map (.boolean config.simd _) _) ?_
  refine .cons (.map (.boolean config.inheritsStderr _) _) ?_
  refine .cons (.map (.optional (.text _) config.cachePath _) _) ?_
  exact .nil

/-! ### Failures -/

theorem Script.Failure.shape_takes (failure : Failure) (depth : Nat) :
    Failure.shape.Takes (depth + 2) failure.toJson failure := by
  have least := failure.status.minValue_le_toInt
  have most := failure.status.toInt_le
  have size : UInt64.size = 18446744073709551616 := rfl
  have wide : Int64.minValue.toInt = -9223372036854775808 := rfl
  have low : Int32.minValue.toInt = -2147483648 := rfl
  have high : Int32.maxValue.toInt = 2147483647 := rfl
  have number : (Shape.integer Int32.minValue.toInt Int32.maxValue.toInt "i32").Takes (depth + 1)
      (.int failure.status.toInt) failure.status.toInt :=
    .integer _ least most (by omega) (by omega) _
  have status := number.map
    fun status (failure : Failure) => { failure with status := Int32.ofInt status }
  rw [Int32.ofInt_toInt] at status
  have kind : (FailureClass.all.map fun kind => (kind.name, kind)).lookup failure.kind.name =
      some failure.kind := by cases failure.kind <;> rfl
  refine .record _ (by decide) ?_
  refine .cons (.map (.variant kind _) _) ?_
  refine .cons status ?_
  refine .cons (.map (.text _ failure.message _) _) ?_
  refine .cons (.map (.optional (.text _) failure.stack _) _) ?_
  refine .cons (.map (.strings failure.logs _) _) ?_
  exact .nil

/-! ### Through texts and files -/

/-- Policies without their consent functions, engine configurations and failures come back from their
texts, and a valid policy from a file that it is written to. -/
theorem settings_read_back :
    (∀ policy : Policy, Policy.shape.parse policy.toJson.toBytes = .ok policy.withoutConsents) ∧
    (∀ config : Guest.EngineConfig,
      Guest.EngineConfig.shape.parse config.toJson.toBytes = .ok config) ∧
    (∀ failure : Script.Failure,
      Script.Failure.shape.parse failure.toJson.toBytes = .ok failure) ∧
    ∀ (policy : Policy) (name : String) (system : Files.System) (before after : Files.Tree)
      (path : Files.Path), policy.validate = .ok () →
      before.replaceContent system path policy.toJson.toBytes = (.ok (), after) →
      Policy.ofFile name (after.readText path) = .ok policy.withoutConsents := by
  refine ⟨fun policy => (policy.shape_takes 125).parse, fun config => (config.shape_takes 126).parse,
    fun failure => (failure.shape_takes 125).parse, ?_⟩
  intro policy name system before after path valid written
  have text : after.readText path = .ok policy.toJson.text := by
    rw [Files.Tree.readText, Files.readBytes_replaceContent written]
    simp only [Json.toBytes, Utf8.decode?_encode]
    rfl
  have bytes : Utf8.ofString policy.toJson.text = policy.toJson.toBytes := by
    rw [Utf8.ofString, Json.text, String.toList_ofList, Json.toBytes]
  have same : policy.withoutConsents.validate = .ok () := valid
  unfold Policy.ofFile
  simp only [text, bytes, (policy.shape_takes 125).parse, same]

/-! ### A policy with marks in its texts -/

namespace MarkedPolicy

def policy : Policy where
  root := "box \"📦\"\n"
  defaultTimeout := Int64.minValue
  allowedDomains := ["Example.com", " a.b "]
  maxResponseBytes := 18446744073709551615
  startupScripts := ["let a = 1;\t// \\"]
  networkConsent := some fun _ => true

/-- A tree with a link to a file that is not there yet. -/
def before : Files.Tree := Files.Tree.empty.insert ["settings"] (.link "policy.json")

def after : Files.Tree := before.insert ["policy.json"] (.file policy.toJson.toBytes)

theorem valid : policy.validate = .ok () := by decide +kernel

theorem found : Files.locateFor .create before ["settings"] = .ok (.vacant [] "policy.json") := by
  decide +kernel

theorem written :
    before.replaceContent {} ["settings"] policy.toJson.toBytes = (.ok (), after) := by
  unfold Files.Tree.replaceContent Files.Tree.put
  simp [found, Files.System.attempt, Files.SystemCall.apply, Files.Tree.insert_insert, after]

/-- The policy is read back through the link, without its consent function. -/
theorem marked_policy_read_back : policy.validate = .ok () ∧
    before.replaceContent {} ["settings"] policy.toJson.toBytes = (.ok (), after) ∧
    Policy.ofFile "settings" (after.readText ["settings"]) = .ok policy.withoutConsents :=
  ⟨valid, written, settings_read_back.2.2.2 policy "settings" {} before after _ valid written⟩

end MarkedPolicy

end ScriptSandbox
