import ScriptSandbox.Proofs.Bridge.Serving
import ScriptSandbox.Proofs.Bridge.Wording
import ScriptSandbox.Proofs.Files.Resolution
import ScriptSandbox.Proofs.Http.Policy

/-!
# Refusals of a run

Built-ins refuse in the sandbox's own words. A run keeps each refusal that it was told, and fails
with one of them exactly when the message of one occurs in what its script failed with.
-/
namespace ScriptSandbox

/-- An outcome that is no refusal. -/
def Unrefused {α : Type} (outcome : Except Fault α) : Prop :=
  ∀ cause, outcome ≠ .error (.refused cause)

theorem Unrefused.bind {α β : Type} {outcome : Except Fault α} {next : α → Except Fault β}
    (first : Unrefused outcome) (further : ∀ value, Unrefused (next value)) :
    Unrefused (outcome.bind next) := by
  intro cause fails
  cases outcome with
  | error fault =>
    obtain rfl : fault = .refused cause := by simpa [Except.bind] using fails
    exact first cause rfl
  | ok value => exact further value cause fails

theorem Unrefused.map {α β : Type} {outcome : Except Fault α} (first : Unrefused outcome)
    (next : α → β) : Unrefused (outcome.map next) := by
  intro cause fails
  cases outcome with
  | error fault =>
    obtain rfl : fault = .refused cause := by simpa [Except.map] using fails
    exact first cause rfl
  | ok value => cases fails

/-! ### Files -/

namespace Files.Boundary

theorem resolve_refusal {boundary : Boundary} {requested : String} {action : FileAction}
    {cause : Refusal}
    (fails : (boundary.resolve requested action).outcome = .error (.refused cause)) :
    cause.IsOwn := by
  have resolved := boundary.resolve_resolved requested action
  generalize boundary.resolve requested action = ruling at fails resolved
  cases resolved <;> cases fails <;> trivial

theorem perform_refusal {α : Type} {boundary : Boundary} {tree : Tree} {requested : String}
    {action : FileAction} {operation : Path → Except ScriptSandbox.Fault α × Tree} {cause : Refusal}
    (own : ∀ path, (operation path).1 = .error (.refused cause) → cause.IsOwn)
    (fails : (boundary.perform tree requested action operation).outcome = .error (.refused cause)) :
    cause.IsOwn := by
  unfold perform at fails
  split at fails
  next fault asked ruling =>
    obtain rfl : fault = .refused cause := Except.error.inj fails
    exact resolve_refusal (congrArg Ruling.outcome ruling)
  next path asked ruling => exact own path fails

theorem lift_unrefused {α : Type} (outcome : Except Files.Fault α) : Unrefused (lift outcome) := by
  cases outcome <;> simp [Unrefused, lift]

end Files.Boundary

/-! ### The network -/

namespace Http

theorem Rules.check_refusal {rules : Rules} {raw : String} {url : Url} {cause : Refusal}
    (fails : (rules.check raw url).outcome = .error (.refused cause)) : cause.IsOwn := by
  rcases check_refuses fails with named | named <;> cases named <;> trivial

theorem Rules.checkText_refusal {rules : Rules} {raw : String} {cause : Refusal}
    (fails : (rules.checkText raw).outcome = .error (.refused cause)) : cause.IsOwn := by
  unfold checkText at fails
  split at fails
  · cases fails
  · exact check_refusal (vet_error_iff.mp fails)

private theorem headersOf_go_unrefused (given : List (String × String)) (headers : Headers) :
    Unrefused (headersOf.go given headers) := by
  induction given generalizing headers with
  | nil => simp [Unrefused, headersOf.go]
  | cons header rest ih =>
    unfold headersOf.go
    split
    · simp only
      split
      · exact ih _
      · simp [Unrefused]
    · simp [Unrefused]

theorem Description.toDraft_unrefused (description : Description) :
    Unrefused description.toDraft := by
  intro cause fails
  unfold toDraft at fails
  split at fails
  next fault named =>
    obtain rfl : fault = .refused cause := Except.error.inj fails
    unfold methodOf at named
    split at named
    · cases named
    · split at named <;> cases named
  · split at fails
    next fault listed =>
      obtain rfl : fault = .refused cause := Except.error.inj fails
      exact headersOf_go_unrefused _ _ cause listed
    · cases fails

theorem buffer_unrefused (limit : Nat) (complete : Bool) (buffered : Bytes) (chunks : List Bytes) :
    Unrefused (buffer limit complete buffered chunks).outcome := by
  induction chunks generalizing buffered with
  | nil =>
    unfold buffer
    split <;> simp [Unrefused]
  | cons chunk rest ih =>
    unfold buffer
    split
    · simp [Unrefused]
    · exact ih _

theorem readCapped_unrefused (limit : Nat) (body : Body) : Unrefused (readCapped limit body) := by
  unfold readCapped Body.read
  split
  · split
    · simp [Unrefused]
    · exact buffer_unrefused _ _ _ _
  · exact buffer_unrefused _ _ _ _

theorem send_refusal {rules : Rules} {network : Network} {request : Request} {cause : Refusal}
    (fails : (send rules network request).outcome = .error (.refused cause)) : cause.IsOwn := by
  unfold send at fails
  split at fails
  · obtain ⟨raw, url, fails⟩ := (follow_trail _ _ _ _).refusal fails
    exact Rules.check_refusal fails
  · cases fails

theorem Client.run_refusal {client : Client} {errand : Errand} (drafted : Unrefused errand.draft)
    {cause : Refusal} (fails : (client.run errand).outcome = .error (.refused cause)) :
    cause.IsOwn := by
  -- What is made of the response cannot fail, so the refusal is one of the fetch.
  have fetched : (client.fetch errand).outcome = .error (.refused cause) := by
    cases outcome : (client.fetch errand).outcome <;> simp_all [run, Exchange.map, Except.bind]
  unfold fetch at fetched
  simp only at fetched
  split at fetched
  next fault refused =>
    obtain rfl : fault = .refused cause := Except.error.inj fetched
    exact Rules.checkText_refusal refused
  next url _ =>
    split at fetched
    next fault failed =>
      obtain rfl : fault = .refused cause := Except.error.inj fetched
      exact absurd failed (drafted cause)
    next draft _ =>
      cases outcome : (send client.rules client.network (draft.toRequest url)).outcome with
      | error fault =>
        obtain rfl : fault = .refused cause := by
          simpa [Exchange.map, outcome, Except.bind] using fetched
        exact send_refusal outcome
      | ok response =>
        simp only [Exchange.map, outcome, Except.bind] at fetched
        exact absurd fetched ((readCapped_unrefused _ _).map _ cause)

end Http

/-! ### Built-ins -/

namespace Bridge

private theorem fileOutcome_refusal {α : Type} {toJson : α → Json} {effect : Files.Effect α}
    {cause : Refusal}
    (fails : (fileOutcome toJson effect).answer = .failed (.refused cause)) :
    effect.outcome = .error (.refused cause) := by
  cases outcome : effect.outcome <;> simp_all [fileOutcome, Answer.ofExcept, Except.map]

theorem stringArg_unrefused (call : Call) (index : Nat) : Unrefused (call.stringArg index) := by
  unfold Call.stringArg
  split <;> simp [Unrefused]

theorem numberArg_unrefused (call : Call) (index : Nat) : Unrefused (call.numberArg index) := by
  unfold Call.numberArg
  split <;> simp [Unrefused]

theorem pathArg_unrefused (call : Call) (action : FileAction) :
    Unrefused (pathArg call action) := by
  unfold pathArg
  split
  · simp [Unrefused]
  · exact stringArg_unrefused call 0

theorem runFile_refusal {boundary : Files.Boundary} {system : Files.System} {files : Files.Tree}
    {action : FileAction} {call : Call} {cause : Refusal}
    (fails : (runFile boundary system files action call).answer = .failed (.refused cause)) :
    cause.IsOwn := by
  unfold runFile at fails
  split at fails
  next fault named =>
    obtain rfl : fault = .refused cause := by simpa using fails
    exact absurd named (pathArg_unrefused call action cause)
  next path named =>
    cases action <;> have fails := fileOutcome_refusal fails <;>
      refine Files.Boundary.perform_refusal (fun place failed => ?_) fails
    -- Of the operations themselves only a deletion refuses: that of the root.
    case delete =>
      split at failed
      · cases failed
        trivial
      · exact absurd failed (Files.Boundary.lift_unrefused _ cause)
    all_goals exact absurd failed (Files.Boundary.lift_unrefused _ cause)

theorem errand_unrefused (call : Call) (action : HttpAction) : Unrefused (action.errand call) := by
  cases action with
  | get | postJson => exact (stringArg_unrefused call 0).map _
  | request =>
    simp only [HttpAction.errand]
    split <;> simp [Unrefused]

theorem draft_unrefused {call : Call} {action : HttpAction} {errand : Http.Errand}
    (wanted : action.errand call = .ok errand) : Unrefused errand.draft := by
  cases action with
  | get | postJson =>
    simp only [HttpAction.errand] at wanted
    cases named : call.stringArg 0 with
    | error fault => simp [named, Except.map] at wanted
    | ok url =>
      obtain rfl : _ = errand := by simpa [named, Except.map] using wanted
      simp [Unrefused, Http.Errand.get, Http.Errand.postJson]
  | request =>
    simp only [HttpAction.errand] at wanted
    split at wanted
    · cases wanted
    · cases wanted
      exact Http.Description.toDraft_unrefused _

theorem runHttp_refusal {client : Http.Client} {files : Files.Tree} {action : HttpAction}
    {call : Call} {cause : Refusal}
    (fails : (runHttp client files action call).answer = .failed (.refused cause)) :
    cause.IsOwn := by
  unfold runHttp at fails
  split at fails
  next fault failed =>
    obtain rfl : fault = .refused cause := Answer.failed.inj fails
    exact absurd failed (errand_unrefused call action cause)
  next errand wanted =>
    split at fails
    · cases fails
    · apply Http.Client.run_refusal (draft_unrefused wanted)
      cases outcome : (client.run errand).outcome <;> simp_all [Answer.ofExcept]

theorem arithmetic_unrefused {call : Call}
    {operation : Binary64 → Binary64 → Except Fault Binary64}
    (unrefused : ∀ left right, Unrefused (operation left right)) :
    Unrefused (arithmetic call operation) := by
  refine (numberArg_unrefused call 0).bind fun left => ?_
  refine (numberArg_unrefused call 1).bind fun right => ?_
  refine (unrefused left right).bind fun value => ?_
  unfold numberResult
  split
  · split <;> simp [Unrefused]
  · split <;> simp [Unrefused]

private theorem ofExcept_unrefused {outcome : Except Fault Json} (unrefused : Unrefused outcome)
    (cause : Refusal) : Answer.ofExcept outcome ≠ .failed (.refused cause) := by
  cases outcome with
  | ok value => simp [Answer.ofExcept]
  | error fault =>
    intro fails
    obtain rfl : fault = .refused cause := Answer.failed.inj fails
    exact unrefused cause rfl

/-- What a built-in refuses, it refuses in the sandbox's own words. -/
theorem Builtin.run_refusal {method : Builtin} {access : Access} {time : Nat} {files : Files.Tree}
    {call : Call} {cause : Refusal}
    (fails : (method.run access time files call).answer = .failed (.refused cause)) :
    cause.IsOwn := by
  cases method with
  | file action => exact runFile_refusal fails
  | http action => exact runHttp_refusal fails
  | add | subtract | multiply =>
    refine absurd fails (ofExcept_unrefused (arithmetic_unrefused fun left right => ?_) cause)
    simp [Unrefused]
  | divide =>
    refine absurd fails (ofExcept_unrefused (arithmetic_unrefused fun left right => ?_) cause)
    unfold quotient
    split <;> simp [Unrefused]

/-! ### What a run keeps -/

/-- The refusal of the built-in that a payload calls. -/
def Host.refusal? (host : Host) (state : State) (payload : Bytes) : Option Refusal :=
  match host.read state.run.cancelled payload with
  | .ok (.builtin method, call) =>
    match (method.run host.access state.run.calls state.world.files call).answer with
    | .failed (.refused cause) => some cause
    | _ => none
  | _ => none

/-- The refusal of the built-in that a served payload calls. -/
def Served.cause? (served : Served) : Option Refusal :=
  served.host.refusal? served.state served.payload

/-- A refusal is in the sandbox's own words, it is replied as an error, and the run records it. -/
theorem Host.dispatch_of_refusal {host : Host} {state : State} {payload : Bytes} {cause : Refusal}
    (refused : host.refusal? state payload = some cause) :
    cause.IsOwn ∧ ∃ world, host.dispatch state payload =
      (.replied (.error (Fault.refused cause).message),
        ⟨world, { state.run.record cause.message with calls := state.run.calls + 1 }⟩) := by
  unfold refusal? at refused
  split at refused
  next method call read =>
    split at refused
    next answer =>
      cases refused
      refine ⟨Builtin.run_refusal answer, ?_⟩
      simp [dispatch, read, perform, answer, conclude, Run.record]
    · cases refused
  · cases refused

/-- What is found for a text is the latest recorded message that occurs in it. -/
theorem Run.causeOf?_eq_some_iff {run : Run} {text message : String} :
    run.causeOf? text = some message ↔
      ∃ earlier later, run.refusals = earlier ++ message :: later ∧
        message.toList <:+: text.toList ∧ ∀ other ∈ later, ¬ other.toList <:+: text.toList := by
  unfold causeOf?
  rw [List.find?_eq_some_iff_append]
  simp only [Search.occursIn_iff, Bool.not_eq_eq_eq_not, Bool.not_true, ← Bool.not_eq_true]
  constructor
  · rintro ⟨occurs, passed, rest, split, others⟩
    refine ⟨rest.reverse, passed.reverse, ?_, occurs, fun other among => ?_⟩
    · rw [List.reverse_eq_iff.mp split, List.reverse_append, List.reverse_cons, List.append_assoc]
      rfl
    · exact others other (List.mem_reverse.mp among)
  · rintro ⟨earlier, later, split, occurs, others⟩
    refine ⟨occurs, later.reverse, earlier.reverse, by simp [split], fun other among => ?_⟩
    exact others other (List.mem_reverse.mp among)

/-- Something is found for every text in which a recorded message occurs. -/
theorem Run.causeOf?_isSome {run : Run} {text message : String} (recorded : message ∈ run.refusals)
    (occurs : message.toList <:+: text.toList) : ∃ told, run.causeOf? text = some told := by
  apply Option.isSome_iff_exists.mp
  rw [causeOf?, List.find?_isSome]
  exact ⟨message, List.mem_reverse.mpr recorded, Search.occursIn_iff.mpr occurs⟩

/-- A run that fails with a refusal fails with the latest one whose message occurs in what its script
failed with. -/
theorem Run.latest_of_faultOf {run : Run} {failure : Script.Failure} {cause : Refusal}
    (told : run.faultOf failure = .refused cause) :
    ∃ earlier later, run.refusals = earlier ++ cause.message :: later ∧
      cause.message.toList <:+: failure.message.toList ∧
      ∀ message ∈ later, ¬ message.toList <:+: failure.message.toList := by
  unfold faultOf at told
  split at told
  next message found =>
    cases told
    exact Run.causeOf?_eq_some_iff.mp found
  · cases told

/-- A run fails with a refusal exactly when the message of one occurs in what its script failed
with. -/
theorem Run.faultOf_refused_iff (run : Run) (failure : Script.Failure) :
    (∃ message, run.faultOf failure = .refused (.other message)) ↔
      ∃ message ∈ run.refusals, message.toList <:+: failure.message.toList := by
  constructor
  · rintro ⟨message, told⟩
    obtain ⟨earlier, later, split, occurs, -⟩ := Run.latest_of_faultOf told
    exact ⟨_, by simp [split], occurs⟩
  · rintro ⟨message, among, occurs⟩
    obtain ⟨told, found⟩ := Run.causeOf?_isSome among occurs
    exact ⟨told, by simp only [faultOf, found]⟩

/-- Where it does not, it fails with the script's failure. -/
theorem Run.faultOf_cases (run : Run) (failure : Script.Failure) :
    (∃ message, run.faultOf failure = .refused (.other message)) ∨
      run.faultOf failure = .script failure := by
  unfold faultOf
  split
  · exact .inl ⟨_, rfl⟩
  · exact .inr rfl

/-- Where no recorded message occurs in it, a run fails with what its script failed with. -/
theorem Run.faultOf_of_absent {run : Run} {failure : Script.Failure}
    (absent : ∀ message ∈ run.refusals, ¬ message.toList <:+: failure.message.toList) :
    run.faultOf failure = .script failure := by
  rcases run.faultOf_cases failure with told | plain
  · obtain ⟨message, among, occurs⟩ := (run.faultOf_refused_iff failure).mp told
    exact absurd occurs (absent message among)
  · exact plain

end Bridge

end ScriptSandbox
