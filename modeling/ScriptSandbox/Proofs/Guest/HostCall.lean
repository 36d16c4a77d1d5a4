import ScriptSandbox.Guest.Activity
import ScriptSandbox.Proofs.Guest.Memory

/-!
# Calls of the host and the guest's memory

A guest hands four words to the host, and none of them can make the host leave the guest's memory. A
call that returns a number of bytes has served its request once and written that many bytes; a call
that fails leaves the memory alone. It is not the same as a call that did not happen: when only the
reply has no room, its request has been served.
-/
namespace ScriptSandbox.Guest

/-! ### Words as lengths -/

theorem lengthOf_eq (word : UInt32) : (lengthOf word : Int) = max word.toInt32.toInt 0 :=
  Int.toNat_eq_max _

theorem lengthOf_lt (word : UInt32) : lengthOf word < 0x80000000 := by
  have bound : word.toInt32.toInt < 0x80000000 := Int32.toInt_lt _
  unfold lengthOf
  omega

/-- The code for a number of bytes that fits the room is that number. -/
theorem toInt_ofNat_of_le {count : Nat} {room : UInt32} (fits : count ≤ lengthOf room) :
    (Int32.ofNat count).toInt = count := by
  have bound := lengthOf_lt room
  exact Int32.toInt_ofNat_of_lt (by omega)

namespace Machine

variable {around : Surroundings} {machine after : Machine}
  {input inputLength output room start length : UInt32} {code : Int32}

/-! ### What a call of the host does -/

/-- The request of a call. -/
def request (machine : Machine) (input inputLength : UInt32) : Bytes :=
  machine.memory.slice input.toNat (lengthOf inputLength)

/-- Whether the span of a request lies within the memory, and the host can reach that. -/
def Readable (around : Surroundings) (machine : Machine) (input inputLength : UInt32) : Prop :=
  around.exportsMemory = true ∧ input.toNat + lengthOf inputLength ≤ machine.memory.size

/-- The bytes of a span, when the host can get at them. -/
def heard? (around : Surroundings) (machine : Machine) (start length : UInt32) : Option Bytes :=
  if around.exportsMemory then machine.memory.read? start.toNat (lengthOf length) else none

theorem heard?_of_readable (readable : machine.Readable around start length) :
    machine.heard? around start length = some (machine.request start length) := by
  rw [heard?, if_pos readable.1]
  exact Memory.read?_eq_some_iff.mpr ⟨readable.2, rfl⟩

theorem heard?_of_unread (unread : ¬ machine.Readable around start length) :
    machine.heard? around start length = none := by
  unfold heard?
  split
  next reached =>
    exact Memory.read?_eq_none_iff.mpr (Nat.lt_of_not_le fun inside => unread ⟨reached, inside⟩)
  · rfl

/-- What is written of a reply. -/
def written (reply : Bridge.Reply) (room : UInt32) : Bytes := reply.toBytes.take (lengthOf room)

/-- The ways a call of the host can go. -/
inductive Called (around : Surroundings) (machine : Machine)
    (input inputLength output room : UInt32) : CallEnd × Machine → Prop where
  | unreachable (hidden : around.exportsMemory = false) :
      Called around machine input inputLength output room (.returned noMemory, machine)
  | unread (reached : around.exportsMemory = true)
      (outside : machine.memory.size < input.toNat + lengthOf inputLength) :
      Called around machine input inputLength output room (.returned outOfBounds, machine)
  | panicked {state : Bridge.State} (readable : machine.Readable around input inputLength)
      (served : around.host.dispatch machine.state (machine.request input inputLength) =
        (.panicked, state)) :
      Called around machine input inputLength output room (.panicked, { machine with state })
  | waiting {state : Bridge.State} (readable : machine.Readable around input inputLength)
      (served : around.host.dispatch machine.state (machine.request input inputLength) =
        (.waiting, state)) :
      Called around machine input inputLength output room (.waiting, { machine with state })
  | unwritten {reply : Bridge.Reply} {state : Bridge.State}
      (readable : machine.Readable around input inputLength)
      (served : around.host.dispatch machine.state (machine.request input inputLength) =
        (.replied reply, state))
      (outside : machine.memory.size < output.toNat + (written reply room).length) :
      Called around machine input inputLength output room
        (.returned outOfBounds, { machine with state })
  | written {reply : Bridge.Reply} {state : Bridge.State}
      (readable : machine.Readable around input inputLength)
      (served : around.host.dispatch machine.state (machine.request input inputLength) =
        (.replied reply, state))
      (inside : output.toNat + (written reply room).length ≤ machine.memory.size) :
      Called around machine input inputLength output room
        (.returned (Int32.ofNat (written reply room).length),
          ⟨machine.memory.patch output.toNat (written reply room), state⟩)

theorem hostCall_called (around : Surroundings) (machine : Machine)
    (input inputLength output room : UInt32) :
    Called around machine input inputLength output room
      (machine.hostCall around input inputLength output room) := by
  unfold hostCall
  cases reached : around.exportsMemory with
  | false => exact .unreachable reached
  | true =>
    simp only [Bool.not_true, Bool.false_eq_true, ↓reduceIte]
    cases read : machine.memory.read? input.toNat (lengthOf inputLength) with
    | none => exact .unread reached (Memory.read?_eq_none_iff.mp read)
    | some payload =>
      obtain ⟨inside, rfl⟩ := Memory.read?_eq_some_iff.mp read
      have readable : machine.Readable around input inputLength := ⟨reached, inside⟩
      simp only
      split
      next served => exact .panicked readable served
      next served => exact .waiting readable served
      next reply state served =>
        -- The request has been served by now, whether its reply has room or not.
        split
        next put => exact .unwritten readable served (Memory.write?_eq_none_iff.mp put)
        next put =>
          obtain ⟨room, rfl⟩ := Memory.write?_eq_some_iff.mp put
          exact .written readable served room

/-- A call whose request can be read leaves the host as serving the request does. -/
theorem hostCall_state (readable : machine.Readable around input inputLength)
    (output room : UInt32) :
    (machine.hostCall around input inputLength output room).2.state =
      (around.host.dispatch machine.state (machine.request input inputLength)).2 := by
  have called := hostCall_called around machine input inputLength output room
  revert called
  generalize machine.hostCall around input inputLength output room = ended
  rintro (hidden | ⟨_, outside⟩ | ⟨_, served⟩ | ⟨_, served⟩ | ⟨_, served, _⟩ | ⟨_, served, _⟩)
  -- The first two ways need a request that cannot be read, and all others have served it.
  case unreachable => exact absurd readable.1 (by simp [hidden])
  case unread => exact absurd readable.2 (Nat.not_le_of_lt outside)
  all_goals rw [served]

/-- A call whose request cannot be read changes nothing. -/
theorem hostCall_unread (unread : ¬ machine.Readable around input inputLength)
    (output room : UInt32) :
    (machine.hostCall around input inputLength output room).2 = machine := by
  have called := hostCall_called around machine input inputLength output room
  revert called
  generalize machine.hostCall around input inputLength output room = ended
  rintro (_ | _ | ⟨readable⟩ | ⟨readable⟩ | ⟨readable⟩ | ⟨readable⟩)
  case unreachable => rfl
  case unread => rfl
  all_goals exact absurd readable unread

/-- A call that returned a number of bytes has served its request, and wrote that many bytes of the
reply and nothing else. -/
structure Delivered (around : Surroundings) (machine : Machine)
    (input inputLength output room : UInt32) (code : Int32) (after : Machine) : Prop where
  readable : machine.Readable around input inputLength
  /-- The state afterwards is the one after serving these bytes, no more and no less. -/
  served : ∃ reply, around.host.dispatch machine.state (machine.request input inputLength) =
      (.replied reply, after.state) ∧
    code.toInt = min (reply.toBytes.length : Int) (max room.toInt32.toInt 0) ∧
    after.memory.slice output.toNat code.toInt.toNat = reply.toBytes.take code.toInt.toNat
  inside : output.toNat + code.toInt.toNat ≤ machine.memory.size
  size : after.memory.size = machine.memory.size
  rest : ∀ place, place < output.toNat ∨ output.toNat + code.toInt.toNat ≤ place →
    after.memory.byteAt place = machine.memory.byteAt place

theorem length_written (reply : Bridge.Reply) (room : UInt32) :
    (written reply room).length = min (lengthOf room) reply.toBytes.length :=
  List.length_take

theorem toInt_written (reply : Bridge.Reply) (room : UInt32) :
    (Int32.ofNat (written reply room).length).toInt = (written reply room).length := by
  have fits : (written reply room).length ≤ lengthOf room := by
    rw [length_written]
    exact Nat.min_le_left _ _
  exact toInt_ofNat_of_le fits

theorem delivered_of_written {reply : Bridge.Reply} {state : Bridge.State}
    (readable : machine.Readable around input inputLength)
    (served : around.host.dispatch machine.state (machine.request input inputLength) =
      (.replied reply, state))
    (inside : output.toNat + (written reply room).length ≤ machine.memory.size) :
    Delivered around machine input inputLength output room
      (Int32.ofNat (written reply room).length)
      ⟨machine.memory.patch output.toNat (written reply room), state⟩ := by
  have count := toInt_written reply room
  have length := length_written reply room
  refine ⟨readable, ⟨reply, served, ?_, ?_⟩, ?_, rfl, ?_⟩
  · rw [count, ← lengthOf_eq]
    omega
  · -- As many bytes are there as were written, and they are the first ones of the reply.
    rw [count, Int.toNat_natCast, Memory.slice_patch, length, ← List.take_take, List.take_length]
    rfl
  · rw [count]
    exact inside
  · intro place outside
    rw [count] at outside
    exact Memory.byteAt_patch_outside outside

/-- What lies beyond the end of the memory does not matter to a call. -/
theorem hostCall_within (around : Surroundings) (machine : Machine)
    (input inputLength output room : UInt32) {other : Memory}
    (agree : machine.memory.Agree other) :
    (machine.hostCall around input inputLength output room).1 =
        ({ machine with memory := other }.hostCall around input inputLength output room).1 ∧
      (machine.hostCall around input inputLength output room).2.state =
        ({ machine with memory := other }.hostCall around input inputLength output room).2.state ∧
      (machine.hostCall around input inputLength output room).2.memory.Agree
        ({ machine with memory := other }.hostCall around input inputLength output
          room).2.memory := by
  -- Both memories give the same request, and the same answer on whether the reply fits.
  unfold hostCall
  simp only [← agree.read?]
  split
  · exact ⟨rfl, rfl, agree⟩
  · split
    · exact ⟨rfl, rfl, agree⟩
    next payload _ =>
      obtain ⟨ending, state⟩ := around.host.dispatch machine.state payload
      cases ending with
      | panicked | waiting => exact ⟨rfl, rfl, agree⟩
      | replied reply =>
        rcases agree.write? output.toNat (reply.toBytes.take (lengthOf room)) with
          ⟨left, right⟩ | ⟨_, _, left, right, after⟩
        · simpa only [left, right, true_and] using agree
        · simpa only [left, right, true_and] using after

/-! ### The two imports -/

/-- A log line of a guest takes its text from the memory, which stays as it is. -/
theorem hostLog?_eq_some_iff :
    machine.hostLog? around start length = some after ↔
      machine.Readable around start length ∧
        after = { machine with state := { machine.state with
          run := machine.state.run.push (Utf8.toStringLossy (machine.request start length)) } } := by
  unfold hostLog? Readable
  cases reached : around.exportsMemory with
  | false => simp
  | true =>
    cases read : machine.memory.read? start.toNat (lengthOf length) with
    | none => simp [Nat.not_le_of_lt (Memory.read?_eq_none_iff.mp read)]
    | some line =>
      obtain ⟨inside, rfl⟩ := Memory.read?_eq_some_iff.mp read
      simp [inside, request, eq_comm]

theorem run_log_cases {σ : Type} (around : Surroundings) (machine : Machine)
    (start length : UInt32) (next : Activity σ) :
    (machine.Readable around start length ∧
        machine.run around (.log start length next) =
          run around next { machine with state := { machine.state with
            run := machine.state.run.push (Utf8.toStringLossy (machine.request start length)) } }) ∨
      machine.run around (.log start length next) = (.trapped, machine) := by
  cases logged : machine.hostLog? around start length with
  | none =>
    right
    simp only [run, logged]
  | some after =>
    left
    obtain ⟨readable, rfl⟩ := hostLog?_eq_some_iff.mp logged
    exact ⟨readable, by simp only [run, logged]⟩

/-- The four words of a host call are only ever used within the memory. A call that returns a number
of bytes has served the bytes of its request span once and delivered that many bytes of the reply;
one that returns another code leaves the memory alone, and so does one that never returns. A log
call adds the text of its span to the log, as one line, or traps and changes nothing. -/
theorem imports_respect_memory (around : Surroundings) (machine : Machine) :
    (∀ input inputLength output room : UInt32,
      (match machine.hostCall around input inputLength output room with
        | (.returned code, after) =>
          (0 ≤ code ∧ Delivered around machine input inputLength output room code after) ∨
            ((code = -1 ∨ code = -2) ∧ after.memory = machine.memory)
        | (.panicked, after) | (.waiting, after) => after.memory = machine.memory) ∧
      ∀ other : Memory, machine.memory.Agree other →
        (machine.hostCall around input inputLength output room).1 =
            ({ machine with memory := other }.hostCall around input inputLength output room).1 ∧
          (machine.hostCall around input inputLength output room).2.state =
            ({ machine with memory := other }.hostCall around input inputLength output
              room).2.state ∧
          (machine.hostCall around input inputLength output room).2.memory.Agree
            ({ machine with memory := other }.hostCall around input inputLength output
              room).2.memory) ∧
    ∀ (σ : Type) (start length : UInt32) (next : Activity σ),
      (machine.Readable around start length ∧ ∃ after : Machine,
        machine.run around (.log start length next) = after.run around next ∧
        after.memory = machine.memory ∧
        after.state.run.log =
          machine.state.run.log ++ [Utf8.toStringLossy (machine.request start length)]) ∨
      machine.run around (.log start length next) = (.trapped, machine) := by
  refine ⟨fun input inputLength output room => ⟨?_, ?_⟩, ?_⟩
  · have called := hostCall_called around machine input inputLength output room
    revert called
    generalize machine.hostCall around input inputLength output room = ended
    rintro (_ | _ | _ | _ | _ | ⟨readable, served, inside⟩)
    case unreachable => exact .inr ⟨.inr rfl, rfl⟩
    case unread => exact .inr ⟨.inl rfl, rfl⟩
    case panicked => rfl
    case waiting => rfl
    case unwritten => exact .inr ⟨.inl rfl, rfl⟩
    case written =>
      -- The number of bytes stays below 2³¹, so its code is not taken for a failure.
      refine .inl ⟨?_, delivered_of_written readable served inside⟩
      rw [Int32.le_iff_toInt_le, toInt_written]
      exact Int.natCast_nonneg _
  · intro other agree
    exact hostCall_within around machine input inputLength output room agree
  · intro σ start length next
    rcases run_log_cases around machine start length next with ⟨readable, logged⟩ | trapped
    · exact .inl ⟨readable, _, logged, rfl, rfl⟩
    · exact .inr trapped

/-! ### Calls that fail -/

/-- A call that returns a negative code has changed nothing when its request could not be read. When
the request could be read, it was served once and all that this did stays, and there is no room in
the memory for what should be written of the reply. -/
theorem failed_call_served (ended : machine.hostCall around input inputLength output room =
      (.returned code, after)) (failed : code < 0) :
    (¬ machine.Readable around input inputLength ∧ after = machine) ∨
      (machine.Readable around input inputLength ∧ code = outOfBounds ∧
        after.memory = machine.memory ∧
        ∃ reply, around.host.dispatch machine.state (machine.request input inputLength) =
            (.replied reply, after.state) ∧
          machine.memory.size < output.toNat + min (lengthOf room) reply.toBytes.length) := by
  have called := hostCall_called around machine input inputLength output room
  rw [ended] at called
  -- Of the ways that return, only the last gives a code that is not negative.
  cases called with
  | unreachable hidden =>
    left
    refine ⟨fun readable => ?_, rfl⟩
    rw [readable.1] at hidden
    cases hidden
  | unread _ outside =>
    left
    exact ⟨fun readable => absurd readable.2 (by omega), rfl⟩
  | @unwritten reply state readable served outside =>
    right
    rw [length_written] at outside
    exact ⟨readable, rfl, rfl, reply, served, outside⟩
  | @written reply state =>
    rw [Int32.lt_iff_toInt_lt, toInt_written, Int32.toInt_zero] at failed
    exact absurd failed (by omega)

end Machine

/-! ### A line that is logged by a call that fails -/

namespace LostReply

/-- The call of a script that logs one line. -/
def payload : Bytes :=
  Json.toBytes (.object [("args", .array [.string "x"]), ("method", .string "log")])

def around : Surroundings :=
  ⟨⟨{}, ⟨⟨["box"], none⟩, .ofPolicy {} .offline, fun _ => {}⟩⟩, ⟨none, 0⟩, true⟩

/-- A memory that starts with the call. -/
def machine : Machine := ⟨⟨64, fun place => payload.getD place 0⟩, ⟨{}, {}⟩⟩

/-- The call, with its reply to be written behind the end of the memory. -/
def ended : CallEnd × Machine :=
  machine.hostCall around 0 (UInt32.ofNat payload.length) 64 100

/-- The call fails for want of room, and its line is in the log all the same. -/
theorem line_of_failed_call : ended.1 = .returned (-1) ∧
    machine.state.run.log = [] ∧ ended.2.state.run.log = ["x"] := by
  decide +kernel

theorem readable : machine.Readable around 0 (UInt32.ofNat payload.length) := by
  constructor <;> decide +kernel

theorem request_eq : machine.request 0 (UInt32.ofNat payload.length) = payload := by
  decide +kernel

theorem ended_eq : ended = (.returned (-1), ended.2) := by
  have code : ended.1 = .returned (-1) := by decide +kernel
  exact Prod.ext code rfl

theorem served_in_failed_call : ended = (.returned (-1), ended.2) ∧ (-1 : Int32) < 0 ∧
    ∃ reply, around.host.dispatch machine.state payload = (.replied reply, ended.2.state) := by
  refine ⟨ended_eq, by decide, ?_⟩
  rcases Machine.failed_call_served ended_eq (by decide) with
    ⟨unread, _⟩ | ⟨_, _, _, reply, served, _⟩
  · exact absurd readable unread
  · rw [request_eq] at served
    exact ⟨reply, served⟩

end LostReply

end ScriptSandbox.Guest
