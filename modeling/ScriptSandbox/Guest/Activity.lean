import ScriptSandbox.Guest.Memory
import ScriptSandbox.Bridge.Dispatch

/-!
# What a guest does

The run of a guest's function is a tree of steps: it looks at its memory, changes it, asks for more
pages, calls the host, and goes on with what it got, until it finishes or traps. `σ` is what the
guest keeps between its functions, its globals.

`Machine.run` carries out such a tree against a host. A host call reads its request from a span of
the memory and writes its reply, cut to the room there is, to another.
-/
namespace ScriptSandbox.Guest

/-- The run of a guest's function. -/
inductive Activity (σ : Type) where
  | finish (globals : σ) (result : UInt32)
  | trap
  | inspect (next : Memory → Activity σ)
  | store (byteAt : Nat → UInt8) (next : Activity σ)
  /-- It asks for more pages, and learns how many there were, or −1. -/
  | grow (pages : UInt32) (next : UInt32 → Activity σ)
  /-- It calls the host with spans for the request and the reply. -/
  | call (input inputLength output room : UInt32) (next : Int32 → Activity σ)
  | log (start length : UInt32) (next : Activity σ)

structure Machine where
  memory : Memory
  state : Bridge.State

/-- What a running guest depends on and does not change. -/
structure Surroundings where
  host : Bridge.Host
  limits : Memory.Limits
  /-- Whether the host can reach the guest's memory. -/
  exportsMemory : Bool

inductive Halt (σ : Type) where
  | finished (globals : σ) (result : UInt32)
  | trapped
  | panicked
  | waiting

inductive CallEnd where
  /-- With the number of bytes written, or a negative code. -/
  | returned (code : Int32)
  | panicked
  | waiting
  deriving DecidableEq, Repr

/-- The code for a span outside the memory. -/
def outOfBounds : Int32 := -1

/-- The code for a memory that the host cannot reach. -/
def noMemory : Int32 := -2

/-- A length as guests give it: a negative one is none. -/
def lengthOf (word : UInt32) : Nat := word.toInt32.toInt.toNat

namespace Machine

def hostCall (around : Surroundings) (machine : Machine) (input inputLength output room : UInt32) :
    CallEnd × Machine :=
  if !around.exportsMemory then (.returned noMemory, machine)
  else match machine.memory.read? input.toNat (lengthOf inputLength) with
    | none => (.returned outOfBounds, machine)
    | some payload =>
      match around.host.dispatch machine.state payload with
      | (.panicked, state) => (.panicked, { machine with state })
      | (.waiting, state) => (.waiting, { machine with state })
      | (.replied reply, state) =>
        -- A reply that is too long is cut. What the call did stays, also when it cannot be written.
        let written := reply.toBytes.take (lengthOf room)
        match machine.memory.write? output.toNat written with
        | none => (.returned outOfBounds, { machine with state })
        | some memory => (.returned (Int32.ofNat written.length), ⟨memory, state⟩)

/-- A log line, none when its span or the memory cannot be reached. -/
def hostLog? (around : Surroundings) (machine : Machine) (start length : UInt32) : Option Machine :=
  if !around.exportsMemory then none
  else match machine.memory.read? start.toNat (lengthOf length) with
    | none => none
    | some line =>
      let run := machine.state.run.push (Utf8.toStringLossy line)
      some { machine with state := { machine.state with run } }

def run {σ : Type} (around : Surroundings) : Activity σ → Machine → Halt σ × Machine
  | .finish globals result, machine => (.finished globals result, machine)
  | .trap, machine => (.trapped, machine)
  | .inspect next, machine => run around (next machine.memory) machine
  | .store byteAt next, machine =>
    run around next { machine with memory := { machine.memory with byteAt } }
  | .grow pages next, machine =>
    match machine.memory.grow? around.limits pages.toNat with
    | some memory =>
      run around (next (UInt32.ofNat machine.memory.pages)) { machine with memory }
    | none => run around (next (-1 : Int32).toUInt32) machine
  | .call input inputLength output room next, machine =>
    match machine.hostCall around input inputLength output room with
    | (.returned code, machine) => run around (next code) machine
    | (.panicked, machine) => (.panicked, machine)
    | (.waiting, machine) => (.waiting, machine)
  | .log start length next, machine =>
    match machine.hostLog? around start length with
    | some machine => run around next machine
    | none => (.trapped, machine)

end Machine

end ScriptSandbox.Guest
