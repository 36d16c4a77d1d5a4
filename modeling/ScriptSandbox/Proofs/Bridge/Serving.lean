import ScriptSandbox.Bridge.Dispatch

/-!
# Runs of host calls

A host serves payloads one after the other. Of what answers them, only the operations on files
change the files, and a payload names at most one such operation. A run records the message of each
refusal that answers a payload, and no other.
-/
namespace ScriptSandbox.Bridge

/-- What the operating system decides for itself when a state's next payload is served. -/
def Host.system (host : Host) (state : State) : Files.System := host.access.system state.run.calls

/-- The state after payloads that are served in order. -/
def Host.serve (host : Host) (state : State) (payloads : List Bytes) : State :=
  payloads.foldl (fun state payload => (host.dispatch state payload).2) state

@[simp] theorem Host.serve_nil (host : Host) (state : State) : host.serve state [] = state := rfl

@[simp] theorem Host.serve_append (host : Host) (state : State) (earlier : List Bytes)
    (payload : Bytes) :
    host.serve state (earlier ++ [payload]) =
      (host.dispatch (host.serve state earlier) payload).2 := by
  simp [Host.serve]

/-- A property that each payload preserves holds after any sequence of payloads. -/
theorem Host.serve_induction (host : Host) (kept : State → Prop) {start : State}
    (initial : kept start)
    (step : ∀ state payload, kept state → kept (host.dispatch state payload).2)
    (payloads : List Bytes) : kept (host.serve start payloads) := by
  induction payloads generalizing start with
  | nil => exact initial
  | cons payload later ih => exact ih (step start payload initial)

/-- What shows of payloads that are served in order: how each call ends, with the log and the
refusals after it. -/
def Host.transcript (host : Host) : State → List Bytes → List (Ending × Run)
  | _, [] => []
  | state, payload :: later =>
    let (ending, next) := host.dispatch state payload
    (ending, next.run) :: host.transcript next later

/-- The operation on files that a payload is a call of. -/
def Host.fileCall? (host : Host) (state : State) (payload : Bytes) : Option (FileAction × Call) :=
  match host.read state.run.cancelled payload with
  | .ok (.builtin (.file action), call) => some (action, call)
  | _ => none

/-- The operation on files that a payload asks for, with the text of the path that it is for. -/
def Host.fileRequest? (host : Host) (state : State) (payload : Bytes) :
    Option (FileAction × String) :=
  match host.fileCall? state payload with
  | some (action, call) => (pathArg call action).toOption.map fun requested => (action, requested)
  | none => none

theorem Host.fileRequest?_eq_some_iff {host : Host} {state : State} {payload : Bytes}
    {action : FileAction} {requested : String} :
    host.fileRequest? state payload = some (action, requested) ↔
      ∃ call, host.fileCall? state payload = some (action, call) ∧
        pathArg call action = .ok requested := by
  unfold Host.fileRequest?
  cases host.fileCall? state payload with
  | none => simp
  | some found =>
    obtain ⟨other, call⟩ := found
    constructor
    · intro asks
      cases named : pathArg call other with
      | error fault => simp [named, Except.toOption] at asks
      | ok text =>
        obtain ⟨rfl, rfl⟩ : other = action ∧ text = requested := by
          simpa [named, Except.toOption] using asks
        exact ⟨call, rfl, named⟩
    · rintro ⟨_, ⟨⟩, named⟩
      simp [named, Except.toOption]

@[simp] theorem conclude_world (state : State) (answer : Answer) :
    (conclude state answer).2.world = state.world := by
  cases answer <;> rfl

@[simp] theorem conclude_log (state : State) (answer : Answer) :
    (conclude state answer).2.run.log = state.run.log := by
  cases answer with
  | failed fault => cases fault <;> rfl
  | value | panicked | waiting => rfl

/-- The message of the refusal that an answer is. -/
def Answer.refused? : Answer → Option String
  | .failed (.refused cause) => some cause.message
  | _ => none

theorem Answer.refused?_eq_some_iff {answer : Answer} {message : String} :
    answer.refused? = some message ↔
      ∃ cause, answer = .failed (.refused cause) ∧ cause.message = message := by
  unfold refused?
  split <;> simp_all

@[simp] theorem conclude_refusals (state : State) (answer : Answer) :
    (conclude state answer).2.run.refusals = state.run.refusals ++ answer.refused?.toList := by
  cases answer with
  | failed fault => cases fault <;> simp [conclude, Answer.refused?, Run.record]
  | value | panicked | waiting => simp [conclude, Answer.refused?]

@[simp] theorem runHttp_files (client : Http.Client) (files : Files.Tree) (action : HttpAction)
    (call : Call) : (runHttp client files action call).files = files := by
  unfold runHttp
  split
  · rfl
  · split <;> rfl

/-- What the network answers does not depend on the files. -/
theorem runHttp_answer_congr (client : Http.Client) (left right : Files.Tree) (action : HttpAction)
    (call : Call) :
    (runHttp client left action call).answer = (runHttp client right action call).answer := by
  unfold runHttp
  split
  · rfl
  · split <;> rfl

/-- Only operations on files change the files. -/
theorem Host.dispatch_files (host : Host) (state : State) (payload : Bytes) :
    (host.dispatch state payload).2.world.files =
      match host.fileCall? state payload with
      | some (action, call) =>
        (runFile host.access.boundary (host.system state) state.world.files action call).files
      | none => state.world.files := by
  unfold Host.dispatch Host.fileCall?
  cases host.read state.run.cancelled payload with
  | error => rfl
  | ok answer =>
    obtain ⟨route, call⟩ := answer
    cases route with
    | handler | log | tools => simp [Host.perform]
    | builtin method => cases method <;> simp [Host.perform, Builtin.run, Host.system]

/-- A call of an operation on files is accepted with the value that the operation gives. -/
theorem Host.dispatch_result_iff {host : Host} {state : State} {payload : Bytes}
    {action : FileAction} {call : Call} (called : host.fileCall? state payload = some (action, call))
    {value : Json} :
    (host.dispatch state payload).1 = .replied (.result value) ↔
      (runFile host.access.boundary (host.system state) state.world.files action call).answer =
        .value value := by
  unfold Host.fileCall? at called
  split at called
  next read =>
    cases called
    simp only [Host.dispatch, read, Host.perform, Builtin.run, Host.system]
    generalize runFile host.access.boundary _ state.world.files action call = outcome
    cases outcome.answer <;> simp [conclude]
  · cases called

/-- What answers a payload, by a handler or a built-in. -/
def Host.answer? (host : Host) (state : State) (payload : Bytes) : Option Answer :=
  match host.read state.run.cancelled payload with
  | .error _ | .ok (.log, _) => none
  | .ok (.handler handler, call) => some (handler call)
  | .ok (.tools, call) => some (callTool host.handlers call)
  | .ok (.builtin method, call) =>
    some (method.run host.access state.run.calls state.world.files call).answer

theorem Host.answer?_of_fileCall {host : Host} {state : State} {payload : Bytes}
    {action : FileAction} {call : Call} (called : host.fileCall? state payload = some (action, call)) :
    host.answer? state payload =
      some (runFile host.access.boundary (host.system state) state.world.files action call).answer := by
  unfold Host.fileCall? at called
  split at called
  next read =>
    cases called
    simp only [Host.answer?, read, Builtin.run, Host.system]
  · cases called

/-- The message of the refusal that answers a payload. -/
def Host.refused? (host : Host) (state : State) (payload : Bytes) : Option String :=
  (host.answer? state payload).bind Answer.refused?

/-- A run records the refusal that answers a payload, and nothing else. -/
theorem Host.dispatch_record (host : Host) (state : State) (payload : Bytes) :
    (host.dispatch state payload).2.run.refusals =
      state.run.refusals ++ (host.refused? state payload).toList := by
  unfold Host.dispatch Host.refused? Host.answer?
  cases host.read state.run.cancelled payload with
  | error => simp
  | ok answer =>
    obtain ⟨route, call⟩ := answer
    cases route with
    | log => simp [Host.perform, Answer.refused?, Run.push]
    | handler | tools | builtin => simp [Host.perform]

/-- A payload that a host serves in a state. -/
structure Served where
  host : Host
  state : State
  payload : Bytes

/-- The message of the refusal that answers it. -/
def Served.refused? (served : Served) : Option String :=
  served.host.refused? served.state served.payload

/-- The messages of the refusals among some calls. -/
def refusals (calls : List Served) : List String := calls.filterMap Served.refused?

@[simp] theorem refusals_append (earlier later : List Served) :
    refusals (earlier ++ later) = refusals earlier ++ refusals later :=
  List.filterMap_append

/-- Payloads that a host serves in order, each in the state that it finds. -/
def Host.calls (host : Host) : State → List Bytes → List Served
  | _, [] => []
  | state, payload :: later => ⟨host, state, payload⟩ :: host.calls (host.dispatch state payload).2 later

/-- The record of a run is the refusals among its calls, in order. -/
theorem Host.serve_record (host : Host) (state : State) (payloads : List Bytes) :
    (host.serve state payloads).run.refusals =
      state.run.refusals ++ refusals (host.calls state payloads) := by
  induction payloads generalizing state with
  | nil => exact (List.append_nil _).symm
  | cons payload later ih =>
    have further := ih (host.dispatch state payload).2
    rw [host.dispatch_record] at further
    calc
      (host.serve state (payload :: later)).run.refusals
        = (host.serve (host.dispatch state payload).2 later).run.refusals := rfl
      _ = state.run.refusals ++ (host.refused? state payload).toList ++
            refusals (host.calls (host.dispatch state payload).2 later) := further
      _ = state.run.refusals ++ refusals (host.calls state (payload :: later)) := by
        cases refused : host.refused? state payload <;>
          simp [Host.calls, refusals, Served.refused?, refused]

/-- A message among those of some calls is that of one of the calls. -/
theorem split_of_refusals {calls : List Served} {message : String} {earlier later : List String}
    (split : refusals calls = earlier ++ message :: later) :
    ∃ before call after, calls = before ++ call :: after ∧ call.refused? = some message ∧
      refusals after = later := by
  obtain ⟨before, rest, rfl, -, others⟩ := List.filterMap_eq_append_iff.mp split
  obtain ⟨passed, call, after, rfl, -, refused, left⟩ := List.filterMap_eq_cons_iff.mp others
  exact ⟨before ++ passed, call, after, by simp, refused, left⟩

end ScriptSandbox.Bridge
