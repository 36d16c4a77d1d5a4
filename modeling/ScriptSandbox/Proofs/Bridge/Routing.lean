import Mathlib.Data.List.Induction
import ScriptSandbox.Proofs.Bridge.Serving

/-!
# What a payload makes a host do

An embedder registers handlers one after the other, and the last one under a name counts. A payload
makes a host do at most one thing: run one handler, add one line to the log, or run one built-in.
Which one it is depends on the names of the registrations and not on the handlers themselves. What
was refused is recorded once, and a payload that makes the host do nothing changes nothing.
-/
namespace ScriptSandbox.Bridge

/-! ### Registrations -/

/-- What handlers are registered as. -/
inductive Slot where
  | method | tool
  deriving DecidableEq, Repr

structure Registration (α : Type) where
  slot : Slot
  name : String
  handler : α

variable {α : Type}

/-- Whether a registration is one for a key, which is a name in lower case. -/
def Registration.IsFor (slot : Slot) (key : String) (registration : Registration α) : Prop :=
  registration.slot = slot ∧ Ascii.lowerString registration.name = key

instance (slot : Slot) (key : String) (registration : Registration α) :
    Decidable (registration.IsFor slot key) :=
  inferInstanceAs (Decidable (_ ∧ _))

/-- Nothing is registered for a key. -/
def Unregistered (slot : Slot) (key : String) (history : List (Registration α)) : Prop :=
  ∀ registration ∈ history, ¬ registration.IsFor slot key

/-- A handler is the last one that is registered for a key. -/
def LastFor (slot : Slot) (key : String) (history : List (Registration α)) (handler : α) : Prop :=
  ∃ earlier registration later, history = earlier ++ registration :: later ∧
    registration.IsFor slot key ∧ registration.handler = handler ∧ Unregistered slot key later

/-- The last registration for a key. -/
def last? (slot : Slot) (key : String) (history : List (Registration α)) :
    Option (Registration α) :=
  history.reverse.find? fun registration => registration.IsFor slot key

theorem last?_eq_none_iff {slot : Slot} {key : String} {history : List (Registration α)} :
    last? slot key history = none ↔ Unregistered slot key history := by
  simp [last?, Unregistered]

theorem last?_handler_iff {slot : Slot} {key : String} {history : List (Registration α)}
    {handler : α} :
    (last? slot key history).map (·.handler) = some handler ↔
      LastFor slot key history handler := by
  rw [Option.map_eq_some_iff]
  constructor
  · rintro ⟨registration, found, rfl⟩
    obtain ⟨matching, passed, rest, split, others⟩ := List.find?_eq_some_iff_append.mp found
    refine ⟨rest.reverse, registration, passed.reverse, ?_, by simpa using matching, rfl, ?_⟩
    · simpa using congrArg List.reverse split
    · intro other among
      simpa using others other (List.mem_reverse.mp among)
  · rintro ⟨earlier, registration, later, rfl, matching, rfl, others⟩
    refine ⟨registration, List.find?_eq_some_iff_append.mpr ⟨by simpa using matching, ?_⟩, rfl⟩
    refine ⟨later.reverse, earlier.reverse, by simp, fun other among => ?_⟩
    simpa using others other (List.mem_reverse.mp among)

theorem LastFor.unique {slot : Slot} {key : String} {history : List (Registration α)}
    {first second : α} (left : LastFor slot key history first)
    (right : LastFor slot key history second) : first = second := by
  have same := last?_handler_iff.mpr left
  rw [last?_handler_iff.mpr right] at same
  exact (Option.some.inj same).symm

theorem LastFor.registered {slot : Slot} {key : String} {history : List (Registration α)}
    {handler : α} (last : LastFor slot key history handler) :
    ¬ Unregistered slot key history := by
  obtain ⟨_, registration, _, rfl, matching, _⟩ := last
  exact fun free => free registration (by simp) matching

theorem lastFor_or_unregistered (slot : Slot) (key : String) (history : List (Registration α)) :
    (∃ handler, LastFor slot key history handler) ∨ Unregistered slot key history := by
  cases found : last? slot key history with
  | none => exact .inr (last?_eq_none_iff.mp found)
  | some registration => exact .inl ⟨_, last?_handler_iff.mp (by rw [found]; rfl)⟩

namespace Handlers

def add (handlers : Handlers) (registration : Registration Handler) : Handlers :=
  match registration.slot with
  | .method => handlers.register registration.name registration.handler
  | .tool => handlers.registerTool registration.name registration.handler

/-- The handlers after some registrations, with a script that installs their bindings. -/
def ofHistory (bootstrap : Option String) (history : List (Registration Handler)) : Handlers :=
  history.foldl add { bootstrap }

def find? (handlers : Handlers) : Slot → String → Option Handler
  | .method, name => handlers.method? name
  | .tool, name => handlers.tool? name

theorem lookup_put (name key : String) (handler : Handler) (table : List (String × Handler)) :
    (put name handler table).lookup key = if name = key then some handler else table.lookup key := by
  unfold put
  by_cases same : name = key
  · simp [same]
  · have differ : (key == name) = false := by simpa using Ne.symm same
    rw [List.lookup_cons, differ, if_neg same]
    -- The entries that are taken out have another key.
    induction table with
    | nil => rfl
    | cons entry rest ih =>
      obtain ⟨other, found⟩ := entry
      by_cases gone : other = name
      · subst gone
        simp [List.lookup_cons, differ, ih]
      · by_cases here : key = other <;> simp [List.lookup_cons, gone, here, ih]

theorem find?_add (handlers : Handlers) (registration : Registration Handler) (slot : Slot)
    (name : String) :
    (handlers.add registration).find? slot name =
      if registration.IsFor slot (Ascii.lowerString name) then some registration.handler
      else handlers.find? slot name := by
  obtain ⟨registered, other, handler⟩ := registration
  cases registered <;> cases slot <;>
    simp [add, find?, method?, tool?, register, registerTool, lookup_put, Registration.IsFor]

theorem find?_ofHistory (bootstrap : Option String) (history : List (Registration Handler))
    (slot : Slot) (name : String) :
    (ofHistory bootstrap history).find? slot name =
      (last? slot (Ascii.lowerString name) history).map (·.handler) := by
  unfold last?
  induction history using List.reverseRecOn with
  | nil => cases slot <;> rfl
  | append_singleton history latest ih =>
    have added : ofHistory bootstrap (history ++ [latest]) =
        (ofHistory bootstrap history).add latest := by
      simp [ofHistory]
    rw [added, find?_add, ih, List.reverse_concat, List.find?_cons]
    by_cases here : latest.IsFor slot (Ascii.lowerString name) <;> simp [here]

theorem find?_of_unregistered (bootstrap : Option String) {history : List (Registration Handler)}
    {slot : Slot} {name : String} (free : Unregistered slot (Ascii.lowerString name) history) :
    (ofHistory bootstrap history).find? slot name = none := by
  rw [find?_ofHistory, last?_eq_none_iff.mpr free]
  rfl

theorem find?_of_lastFor (bootstrap : Option String) {history : List (Registration Handler)}
    {slot : Slot} {name : String} {handler : Handler}
    (last : LastFor slot (Ascii.lowerString name) history handler) :
    (ofHistory bootstrap history).find? slot name = some handler := by
  rw [find?_ofHistory, last?_handler_iff.mpr last]

end Handlers

/-! ### What a payload asks for -/

/-- A payload is a request for a method, which is what is left of a text without the blanks around
it, with some arguments. -/
def Asks (payload : Bytes) (method : String) (args : List Json) : Prop :=
  ∃ request text, Request.shape.parse payload = .ok request ∧ request.method = some text ∧
    Blank.trim text = method ∧ method ≠ "" ∧ request.args = args

/-- A payload asks for nothing, and is told so by a message. -/
inductive Unasked (payload : Bytes) : String → Prop where
  | unreadable {fault : Json.Fault} (parsed : Request.shape.parse payload = .error fault) :
      Unasked payload ("Invalid request: " ++ fault.message)
  | missing {request : Request} (parsed : Request.shape.parse payload = .ok request)
      (blank : ∀ text, request.method = some text → Blank.trim text = "") :
      Unasked payload "Missing method"

theorem asks_or_unasked (payload : Bytes) :
    (∃ method args, Asks payload method args) ∨ ∃ message, Unasked payload message := by
  cases parsed : Request.shape.parse payload with
  | error fault => exact .inr ⟨_, .unreadable parsed⟩
  | ok request =>
    cases named : request.method with
    | none => exact .inr ⟨_, .missing parsed (by simp [named])⟩
    | some text =>
      by_cases blank : Blank.trim text = ""
      · exact .inr ⟨_, .missing parsed (by simp [named, blank])⟩
      · exact .inl ⟨_, _, request, text, parsed, named, rfl, blank, rfl⟩

theorem Asks.unique {payload : Bytes} {method other : String} {args rest : List Json}
    (first : Asks payload method args) (second : Asks payload other rest) :
    method = other ∧ args = rest := by
  obtain ⟨request, text, parsed, named, rfl, -, rfl⟩ := first
  obtain ⟨_, _, parsed', named', rfl, -, rfl⟩ := second
  rw [parsed] at parsed'
  cases parsed'
  rw [named] at named'
  cases named'
  exact ⟨rfl, rfl⟩

theorem Asks.not_unasked {payload : Bytes} {method message : String} {args : List Json}
    (asks : Asks payload method args) : ¬ Unasked payload message := by
  obtain ⟨request, text, parsed, named, rfl, visible, rfl⟩ := asks
  intro unasked
  cases unasked with
  | unreadable failed =>
    rw [parsed] at failed
    cases failed
  | missing same blank =>
    rw [parsed] at same
    cases same
    exact visible (blank text named)

theorem Unasked.unique {payload : Bytes} {message other : String} (first : Unasked payload message)
    (second : Unasked payload other) : message = other := by
  cases first with
  | unreadable failed =>
    cases second with
    | unreadable failed' =>
      rw [failed] at failed'
      cases failed'
      rfl
    | missing parsed =>
      rw [failed] at parsed
      cases parsed
  | missing parsed =>
    cases second with
    | unreadable failed =>
      rw [parsed] at failed
      cases failed
    | missing => rfl

theorem Host.read_of_asks {host : Host} {payload : Bytes} {method : String} {args : List Json}
    (asks : Asks payload method args) (cancelled : Bool) :
    host.read cancelled payload =
      match host.route? method with
      | none => .error ("Unknown method: " ++ method)
      | some route => .ok (route, ⟨method, args, cancelled⟩) := by
  obtain ⟨request, text, parsed, named, rfl, visible, rfl⟩ := asks
  have shown : (Blank.trim text).isEmpty = false := by simpa using visible
  cases found : host.route? (Blank.trim text) <;> simp [read, parsed, named, shown, found]

theorem Host.read_of_unasked {host : Host} {payload : Bytes} {message : String}
    (unasked : Unasked payload message) (cancelled : Bool) :
    host.read cancelled payload = .error message := by
  cases unasked with
  | unreadable parsed => simp [read, parsed]
  | @missing request parsed blank =>
    have hidden : (Blank.trim (request.method.getD "")).isEmpty = true := by
      cases named : request.method with
      | none => decide
      | some text => simp [blank text named]
    simp [read, parsed, hidden]

/-! ### What a host does for it -/

/-- What a payload makes a host do: run a handler or a built-in or add a line to the log, for one
call, or do nothing but reply with a message. -/
inductive Job (α : Type) where
  | nothing (message : String)
  | handler (handler : α) (call : Call)
  | log (call : Call)
  | builtin (method : Builtin) (call : Call)

/-- What a call of `tools.invoke` makes a host do. -/
inductive Invokes (history : List (Registration α)) (call : Call) : Job α → Prop where
  | malformed {cause : Json.Fault} (shape : ToolRequest.shape.ofValue (call.arg 0) = .error cause) :
      Invokes history call (.nothing (Fault.misused (.toolShape cause)).message)
  | unknown {request : ToolRequest} (shape : ToolRequest.shape.ofValue (call.arg 0) = .ok request)
      (free : Unregistered .tool (Ascii.lowerString request.tool) history) :
      Invokes history call (.nothing (Fault.handler (.unknownTool request.tool)).message)
  | tool {request : ToolRequest} {handler : α}
      (shape : ToolRequest.shape.ofValue (call.arg 0) = .ok request)
      (last : LastFor .tool (Ascii.lowerString request.tool) history handler) :
      Invokes history call (.handler handler ⟨request.tool, request.args, call.cancelled⟩)

/-- What a call makes a host do whose method, in lower case, is a key that no handler is registered
for. -/
inductive Provides (history : List (Registration α)) (call : Call) (key : String) : Job α → Prop
    where
  | log (isLog : key = "log") : Provides history call key (.log call)
  | tool {job : Job α} (isTools : key = "tools.invoke") (invokes : Invokes history call job) :
      Provides history call key job
  | builtin {builtin : Builtin} (named : Builtin.ofName? key = some builtin) :
      Provides history call key (.builtin builtin call)
  | unknown (notLog : key ≠ "log") (notTools : key ≠ "tools.invoke")
      (unnamed : Builtin.ofName? key = none) :
      Provides history call key (.nothing ("Unknown method: " ++ call.method))

/-- What a payload makes a host do that has some registrations. The handlers are of any type here:
which one is picked depends on the names alone. -/
inductive Selects (history : List (Registration α)) (cancelled : Bool) (payload : Bytes) :
    Job α → Prop where
  | unasked {message : String} (unasked : Unasked payload message) :
      Selects history cancelled payload (.nothing message)
  | handler {method : String} {args : List Json} {handler : α} (asks : Asks payload method args)
      (last : LastFor .method (Ascii.lowerString method) history handler) :
      Selects history cancelled payload (.handler handler ⟨method, args, cancelled⟩)
  | provided {method : String} {args : List Json} {job : Job α} (asks : Asks payload method args)
      (free : Unregistered .method (Ascii.lowerString method) history)
      (provides : Provides history ⟨method, args, cancelled⟩ (Ascii.lowerString method) job) :
      Selects history cancelled payload job

/-- Neither the log nor `tools.invoke` is in the table of built-ins. -/
theorem Builtin.ofName?_ne {key : String} {builtin : Builtin} (named : ofName? key = some builtin) :
    key ≠ "log" ∧ key ≠ "tools.invoke" := by
  have log : ofName? "log" = none := by decide
  have tools : ofName? "tools.invoke" = none := by decide
  constructor
  · rintro rfl
    rw [log] at named
    cases named
  · rintro rfl
    rw [tools] at named
    cases named

section Selecting

variable {history : List (Registration α)} {call : Call} {key : String} {job other : Job α}

theorem invokes_some (history : List (Registration α)) (call : Call) :
    ∃ job, Invokes history call job := by
  cases shape : ToolRequest.shape.ofValue (call.arg 0) with
  | error cause => exact ⟨_, .malformed shape⟩
  | ok request =>
    rcases lastFor_or_unregistered .tool (Ascii.lowerString request.tool) history with
      ⟨handler, last⟩ | free
    · exact ⟨_, .tool shape last⟩
    · exact ⟨_, .unknown shape free⟩

theorem provides_some (history : List (Registration α)) (call : Call) (key : String) :
    ∃ job, Provides history call key job := by
  by_cases isLog : key = "log"
  · exact ⟨_, .log isLog⟩
  · by_cases isTools : key = "tools.invoke"
    · obtain ⟨job, invokes⟩ := invokes_some history call
      exact ⟨job, .tool isTools invokes⟩
    · cases named : Builtin.ofName? key with
      | some builtin => exact ⟨_, .builtin named⟩
      | none => exact ⟨_, .unknown isLog isTools named⟩

theorem selects_some (history : List (Registration α)) (cancelled : Bool) (payload : Bytes) :
    ∃ job, Selects history cancelled payload job := by
  rcases asks_or_unasked payload with ⟨method, args, asks⟩ | ⟨message, unasked⟩
  · rcases lastFor_or_unregistered .method (Ascii.lowerString method) history with
      ⟨handler, last⟩ | free
    · exact ⟨_, .handler asks last⟩
    · obtain ⟨job, provides⟩ :=
        provides_some history ⟨method, args, cancelled⟩ (Ascii.lowerString method)
      exact ⟨job, .provided asks free provides⟩
  · exact ⟨_, .unasked unasked⟩

theorem Invokes.unique (first : Invokes history call job) (second : Invokes history call other) :
    job = other := by
  cases first <;> cases second <;> grind [LastFor.unique, LastFor.registered]

theorem Provides.unique (first : Provides history call key job)
    (second : Provides history call key other) : job = other := by
  have apart : "log" ≠ "tools.invoke" := by decide
  cases first with
  | log isLog =>
    cases second with
    | log => rfl
    | tool isTools => exact absurd (isLog.symm.trans isTools) apart
    | builtin named => exact absurd isLog (Builtin.ofName?_ne named).1
    | unknown notLog => exact absurd isLog notLog
  | tool isTools invokes =>
    cases second with
    | log isLog => exact absurd (isLog.symm.trans isTools) apart
    | tool _ invokes' => exact invokes.unique invokes'
    | builtin named => exact absurd isTools (Builtin.ofName?_ne named).2
    | unknown _ notTools => exact absurd isTools notTools
  | builtin named =>
    cases second with
    | log isLog => exact absurd isLog (Builtin.ofName?_ne named).1
    | tool isTools => exact absurd isTools (Builtin.ofName?_ne named).2
    | builtin named' => rw [Option.some.inj (named.symm.trans named')]
    | unknown _ _ unnamed => cases named.symm.trans unnamed
  | unknown notLog notTools unnamed =>
    cases second with
    | log isLog => exact absurd isLog notLog
    | tool isTools => exact absurd isTools notTools
    | builtin named => cases named.symm.trans unnamed
    | unknown => rfl

theorem Selects.unique {cancelled : Bool} {payload : Bytes}
    (first : Selects history cancelled payload job)
    (second : Selects history cancelled payload other) : job = other := by
  cases first with
  | unasked unasked =>
    cases second with
    | unasked unasked' => rw [unasked.unique unasked']
    | handler asks | provided asks => exact absurd unasked asks.not_unasked
  | handler asks last =>
    cases second with
    | unasked unasked => exact absurd unasked asks.not_unasked
    | handler asks' last' =>
      obtain ⟨rfl, rfl⟩ := asks.unique asks'
      rw [last.unique last']
    | provided asks' free =>
      obtain ⟨rfl, rfl⟩ := asks.unique asks'
      exact absurd free last.registered
  | provided asks free provides =>
    cases second with
    | unasked unasked => exact absurd unasked asks.not_unasked
    | handler asks' last =>
      obtain ⟨rfl, rfl⟩ := asks.unique asks'
      exact absurd free last.registered
    | provided asks' _ provides' =>
      obtain ⟨rfl, rfl⟩ := asks.unique asks'
      exact provides.unique provides'

end Selecting

namespace Job

/-- What a job does to a state, and how its call ends. A handler or a built-in runs once. -/
def carryOut (access : Access) (state : State) : Job Handler → Ending × State
  | .nothing message => (.replied (.error message), state)
  | .handler run call => conclude state (run call)
  | .log call =>
    (.replied (.result .null), { state with run := state.run.push (logLine call.args) })
  | .builtin method call =>
    let outcome := method.run access state.run.calls state.world.files call
    let run := { state.run with calls := state.run.calls + 1 }
    let world := { state.world with
      files := outcome.files
      asked := state.world.asked ++ outcome.asked
      sent := state.world.sent ++ outcome.sent }
    conclude ⟨world, run⟩ outcome.answer

end Job

section Carrying

variable {bootstrap : Option String} {history : List (Registration Handler)} {access : Access}
  {state : State}

theorem Host.route?_of_unregistered {method : String}
    (free : Unregistered .method (Ascii.lowerString method) history) :
    (⟨.ofHistory bootstrap history, access⟩ : Host).route? method =
      if Ascii.lowerString method = "log" then some .log
      else if Ascii.lowerString method = "tools.invoke" then some .tools
      else (Builtin.ofName? (Ascii.lowerString method)).map .builtin := by
  have missing := Handlers.find?_of_unregistered bootstrap free
  simp only [Handlers.find?] at missing
  simp only [route?, missing]

theorem Host.route?_of_lastFor {method : String} {handler : Handler}
    (last : LastFor .method (Ascii.lowerString method) history handler) :
    (⟨.ofHistory bootstrap history, access⟩ : Host).route? method = some (.handler handler) := by
  have found := Handlers.find?_of_lastFor bootstrap last
  simp only [Handlers.find?] at found
  simp only [route?, found]

theorem Invokes.carried {call : Call} {job : Job Handler} (invokes : Invokes history call job) :
    conclude state (callTool (.ofHistory bootstrap history) call) = job.carryOut access state := by
  cases invokes with
  | malformed shape => simp [callTool, shape, conclude, Job.carryOut]
  | unknown shape free =>
    have missing := Handlers.find?_of_unregistered bootstrap free
    simp only [Handlers.find?] at missing
    simp [callTool, shape, missing, conclude, Job.carryOut]
  | tool shape last =>
    have found := Handlers.find?_of_lastFor bootstrap last
    simp only [Handlers.find?] at found
    simp [callTool, shape, found, Job.carryOut]

theorem Provides.carried {call : Call} {job : Job Handler}
    (provides : Provides history call (Ascii.lowerString call.method) job)
    (free : Unregistered .method (Ascii.lowerString call.method) history) :
    ((⟨.ofHistory bootstrap history, access⟩ : Host).route? call.method = none ∧
        job = .nothing ("Unknown method: " ++ call.method)) ∨
      ∃ route, (⟨.ofHistory bootstrap history, access⟩ : Host).route? call.method = some route ∧
        (⟨.ofHistory bootstrap history, access⟩ : Host).perform state call route =
          job.carryOut access state := by
  rw [Host.route?_of_unregistered free]
  generalize Ascii.lowerString call.method = key at provides
  cases provides with
  | log isLog => exact .inr ⟨.log, if_pos isLog, rfl⟩
  | tool isTools invokes =>
    have notLog : key ≠ "log" := by rw [isTools]; decide
    exact .inr ⟨.tools, by rw [if_neg notLog, if_pos isTools], invokes.carried⟩
  | builtin named =>
    obtain ⟨notLog, notTools⟩ := Builtin.ofName?_ne named
    exact .inr ⟨.builtin _, by rw [if_neg notLog, if_neg notTools, named]; rfl, rfl⟩
  | unknown notLog notTools unnamed =>
    exact .inl ⟨by rw [if_neg notLog, if_neg notTools, unnamed]; rfl, rfl⟩

/-- A host does what a payload selects. -/
theorem Selects.carried {payload : Bytes} {job : Job Handler}
    (selects : Selects history state.run.cancelled payload job) :
    (⟨.ofHistory bootstrap history, access⟩ : Host).dispatch state payload =
      job.carryOut access state := by
  unfold Host.dispatch
  cases selects with
  | unasked unasked =>
    rw [Host.read_of_unasked unasked]
    rfl
  | handler asks last =>
    rw [Host.read_of_asks asks, Host.route?_of_lastFor last]
    rfl
  | provided asks free provides =>
    rw [Host.read_of_asks asks]
    rcases provides.carried free with ⟨missing, rfl⟩ | ⟨route, found, performed⟩
    · rw [missing]
      rfl
    · rw [found]
      exact performed

end Carrying

/-! ### What comes of it -/

namespace Job

/-- The answer of what ran. -/
def answer? (access : Access) (state : State) : Job Handler → Option Answer
  | .nothing _ => none
  | .handler run call => some (run call)
  | .log _ => some (.value .null)
  | .builtin method call => some (method.run access state.run.calls state.world.files call).answer

/-- The message of the refusal that what ran answered with. -/
def refused? (access : Access) (state : State) (job : Job Handler) : Option String :=
  (job.answer? access state).bind Answer.refused?

theorem refused?_eq_some_iff {access : Access} {state : State} {job : Job Handler}
    {message : String} :
    job.refused? access state = some message ↔
      ∃ cause, job.answer? access state = some (.failed (.refused cause)) ∧
        cause.message = message := by
  simp only [refused?, Option.bind_eq_some_iff, Answer.refused?_eq_some_iff]
  constructor
  · rintro ⟨_, answered, cause, rfl, worded⟩
    exact ⟨cause, answered, worded⟩
  · rintro ⟨cause, answered, worded⟩
    exact ⟨_, answered, cause, rfl, worded⟩

/-- A dispatch does a job once and nothing else. -/
structure Done (access : Access) (before : State) (job : Job Handler) (ending : Ending)
    (after : State) : Prop where
  carriedOut : (ending, after) = job.carryOut access before
  idle : ∀ message, job = .nothing message → ending = .replied (.error message) ∧ after = before
  logged : (∃ line, after.run.log = before.run.log ++ [line]) ↔ ∃ call, job = .log call
  unlogged : (∀ call, job ≠ .log call) → after.run.log = before.run.log
  recorded : ∀ message, after.run.refusals = before.run.refusals ++ [message] ↔
    ∃ cause, job.answer? access before = some (.failed (.refused cause)) ∧
      cause.message = message
  unrecorded : (∀ cause, job.answer? access before ≠ some (.failed (.refused cause))) →
    after.run.refusals = before.run.refusals
  /-- Only built-ins reach the world. -/
  worldKept : (∀ method call, job ≠ .builtin method call) → after.world = before.world

section Effects

variable (access : Access) (state : State) (job : Job Handler)

theorem carryOut_log :
    (∃ call, job = .log call ∧
        (job.carryOut access state).2.run.log = state.run.log ++ [logLine call.args]) ∨
      (∀ call, job ≠ .log call) ∧ (job.carryOut access state).2.run.log = state.run.log := by
  cases job with
  | log call => exact .inl ⟨call, rfl, rfl⟩
  | nothing => exact .inr ⟨by simp, rfl⟩
  | handler | builtin => exact .inr ⟨by simp, conclude_log _ _⟩

theorem carryOut_refusals :
    (job.carryOut access state).2.run.refusals =
      state.run.refusals ++ (job.refused? access state).toList := by
  cases job with
  | nothing | log => exact (List.append_nil _).symm
  | handler | builtin => exact conclude_refusals _ _

theorem carryOut_world (inside : ∀ method call, job ≠ .builtin method call) :
    (job.carryOut access state).2.world = state.world := by
  cases job with
  | nothing | log => rfl
  | handler => exact conclude_world _ _
  | builtin method call => exact absurd rfl (inside method call)

theorem done_carryOut :
    job.Done access state (job.carryOut access state).1 (job.carryOut access state).2 where
  carriedOut := rfl
  idle := by
    rintro message rfl
    exact ⟨rfl, rfl⟩
  logged := by
    rcases job.carryOut_log access state with ⟨call, rfl, log⟩ | ⟨other, log⟩
    · exact iff_of_true ⟨_, log⟩ ⟨call, rfl⟩
    · exact iff_of_false (by simp [log]) (by simpa using other)
  unlogged := by
    intro other
    rcases job.carryOut_log access state with ⟨call, rfl, -⟩ | ⟨-, log⟩
    · exact absurd rfl (other call)
    · exact log
  recorded := by
    intro message
    rw [job.carryOut_refusals, ← refused?_eq_some_iff]
    cases job.refused? access state <;> simp
  unrecorded := by
    intro other
    have quiet : job.refused? access state = none := by
      refine Option.eq_none_iff_forall_ne_some.mpr fun message refused => ?_
      obtain ⟨cause, answered, -⟩ := refused?_eq_some_iff.mp refused
      exact other cause answered
    rw [job.carryOut_refusals, quiet]
    exact List.append_nil _
  worldKept := job.carryOut_world access state

end Effects

end Job

/-- A payload selects one job from the registrations that came before, and the host does this one,
once, and nothing else. -/
theorem payload_selects_one_job (bootstrap : Option String) (history : List (Registration Handler))
    (access : Access) (state : State) (payload : Bytes) :
    ∃ job, Selects history state.run.cancelled payload job ∧
      (∀ other, Selects history state.run.cancelled payload other → other = job) ∧
      let host : Host := ⟨.ofHistory bootstrap history, access⟩
      job.Done access state (host.dispatch state payload).1 (host.dispatch state payload).2 := by
  obtain ⟨job, selects⟩ := selects_some history state.run.cancelled payload
  refine ⟨job, selects, fun other also => also.unique selects, ?_⟩
  dsimp only
  rw [selects.carried]
  exact job.done_carryOut access state

end ScriptSandbox.Bridge
