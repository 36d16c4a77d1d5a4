import ScriptSandbox.Proofs.Guest.ErrorText

/-!
# Which refusal is blamed

A script may catch some of its refusals and fail with the error of another one. The run is then told
the latest recorded message that occurs in the string of this error. That is the message of the error
itself, unless a later refusal has another message that shows in it; a refusal whose error is not
caught before the next one is always blamed rightly.
-/
namespace ScriptSandbox.Guest

open Bridge (Host Served State refusals)

/-- The string of the error that a script throws for a call that was refused with a message. -/
def errorString (message : String) : String := String.ofList (refusalLead ++ message.toList)

@[simp] theorem toList_errorString (message : String) :
    (errorString message).toList = refusalLead ++ message.toList :=
  String.toList_ofList

theorem occurs_in_errorString (message : String) :
    message.toList <:+: (errorString message).toList := by
  rw [toList_errorString]
  exact List.infix_append_right

/-- A message in the sandbox's own words occurs in the error of another one where it shows in this
one's message. -/
theorem occurs_iff_showsIn {inner outer : Refusal} (own : inner.IsOwn) (own' : outer.IsOwn) :
    inner.message.toList <:+: (errorString outer.message).toList ↔ inner.ShowsIn outer := by
  rw [← Refusal.occurs_iff_showsIn own own', toList_errorString, inner.message_eq]
  exact Search.occurs_iff_of_fresh (leads_fresh_in_refusalLead _ (Refusal.lead_mem own))

/-- Among some calls the refusal with a message is hidden behind another one: this comes after it, and
its message is a different one that occurs in the error of the first. -/
def Hidden (calls : List Served) (message : String) : Prop :=
  ∃ earlier call later other, calls = earlier ++ call :: later ∧ call.refused? = some other ∧
    other ≠ message ∧ other.toList <:+: (errorString message).toList ∧ message ∉ refusals later

section

variable {run : Bridge.Run} {calls : List Served} {message : String}

theorem not_hidden_of_found (record : run.refusals = refusals calls)
    (found : run.causeOf? (errorString message) = some message) : ¬ Hidden calls message := by
  rintro ⟨earlier, call, later, other, rfl, refused, differs, occurs, gone⟩
  obtain ⟨before, after, split, -, absent⟩ := Bridge.Run.causeOf?_eq_some_iff.mp found
  have all : refusals (earlier ++ call :: later) = refusals earlier ++ other :: refusals later := by
    simp [refusals, refused]
  rw [record, all] at split
  rcases List.append_eq_append_iff.mp split with ⟨between, -, rest⟩ | ⟨between, -, rest⟩
  · -- What was found would come after the other refusal.
    cases between with
    | nil => exact differs (List.cons.inj rest).1
    | cons _ between => exact gone (by simp [(List.cons.inj rest).2])
  · -- The other refusal would come after what was found.
    cases between with
    | nil => exact differs (List.cons.inj rest).1.symm
    | cons _ between => exact absent other (by simp [(List.cons.inj rest).2]) occurs

theorem found_of_not_hidden (record : run.refusals = refusals calls)
    (recorded : message ∈ refusals calls) (shown : ¬ Hidden calls message) :
    run.causeOf? (errorString message) = some message := by
  have occurs := occurs_in_errorString message
  obtain ⟨told, found⟩ := Bridge.Run.causeOf?_isSome (record ▸ recorded) occurs
  obtain ⟨before, after, split, occurs', absent⟩ := Bridge.Run.causeOf?_eq_some_iff.mp found
  rw [record] at split
  obtain ⟨earlier, call, later, rfl, refused, rfl⟩ := Bridge.split_of_refusals split
  by_cases same : told = message
  · rw [found, same]
  · -- Nothing after what is told occurs in the error, and so not its own message either.
    have gone : message ∉ refusals later := fun among => absent message among occurs
    exact absurd ⟨earlier, call, later, told, rfl, refused, same, occurs', gone⟩ shown

end

/-- What is found in the record of a run for the errors of its refusals. -/
structure Blames (calls : List Served) (run : Bridge.Run) : Prop where
  record : run.refusals = refusals calls
  /-- For the error of a refusal some refusal of the run is told. -/
  told : ∀ message ∈ refusals calls, ∃ found ∈ refusals calls,
    run.causeOf? (errorString message) = some found
  /-- It is this refusal unless that one is hidden. -/
  found_iff : ∀ message ∈ refusals calls,
    (run.causeOf? (errorString message) = some message ↔ ¬ Hidden calls message)
  /-- What a built-in refuses occurs in the error of another built-in's refusal where it shows. -/
  shows_iff : ∀ first ∈ calls, ∀ second ∈ calls, ∀ inner outer,
    first.cause? = some inner → second.cause? = some outer →
    (inner.message.toList <:+: (errorString outer.message).toList ↔ inner.ShowsIn outer)

/-- Whatever payloads a fresh run serves, its refusals are found by their errors unless they are
hidden behind later ones. -/
theorem refusals_found_unless_hidden (host : Host) (world : Bridge.World) (cancelled : Bool)
    (payloads : List Bytes) :
    Blames (host.calls ⟨world, { cancelled }⟩ payloads)
      (host.serve ⟨world, { cancelled }⟩ payloads).run := by
  have record := host.serve_record ⟨world, { cancelled }⟩ payloads
  rw [List.nil_append] at record
  constructor
  case record => exact record
  case told =>
    intro message recorded
    have recorded' := record ▸ recorded
    obtain ⟨found, told⟩ := Bridge.Run.causeOf?_isSome recorded' (occurs_in_errorString message)
    obtain ⟨before, after, split, -⟩ := Bridge.Run.causeOf?_eq_some_iff.mp told
    exact ⟨found, by simp [← record, split], told⟩
  case found_iff =>
    intro message recorded
    exact ⟨not_hidden_of_found record, found_of_not_hidden record recorded⟩
  case shows_iff =>
    intro first _ second _ inner outer refused refused'
    have own := (Host.dispatch_of_refusal refused).1
    have own' := (Host.dispatch_of_refusal refused').1
    exact occurs_iff_showsIn own own'

/-! ### A shorter path of the same kind -/

namespace ShorterPath

def host : Host := ⟨{}, ⟨⟨["box"], none⟩, .ofPolicy {} .offline, fun _ => {}⟩⟩

/-- The call of a script that reads a file. -/
def payload (path : String) : Bytes :=
  Json.toBytes (.object [("args", .array [.string path]), ("method", .string "fs.readText")])

/-- A script is refused one path and then another one, with which the first begins. -/
def payloads : List Bytes := [payload "/etc/passwd", payload "/etc"]

def message : String := (Refusal.absolutePath "/etc/passwd").message

theorem refusals_eq : refusals (host.calls ⟨{}, {}⟩ payloads) =
    [message, (Refusal.absolutePath "/etc").message] := by
  decide +kernel

theorem hidden : Hidden (host.calls ⟨{}, {}⟩ payloads) message := by
  refine ⟨[⟨host, ⟨{}, {}⟩, payload "/etc/passwd"⟩], _, [], (Refusal.absolutePath "/etc").message,
    rfl, ?_, ?_, ?_, ?_⟩
  · decide +kernel
  · decide +kernel
  · exact Search.occursIn_iff.mp (by decide +kernel)
  · exact List.not_mem_nil

/-- The error of the first path is not caught, and the run is told the second one. -/
theorem second_path_blamed : message ∈ refusals (host.calls ⟨{}, {}⟩ payloads) ∧
    (host.serve ⟨{}, {}⟩ payloads).run.causeOf? (errorString message) ≠ some message := by
  have recorded : message ∈ refusals (host.calls ⟨{}, {}⟩ payloads) := by simp [refusals_eq]
  refine ⟨recorded, fun found => ?_⟩
  exact ((refusals_found_unless_hidden host {} false payloads).found_iff _ recorded).mp found hidden

end ShorterPath

end ScriptSandbox.Guest
