import ScriptSandbox.Guest.Exchange

/-!
# Guests as lists of instructions

A small language for guests. Their globals hold the places and lengths of their regions, a function
has one local word, and its body is a list of instructions that run one after the other.
`Layout.image` gives the module of such a guest.
-/
namespace ScriptSandbox.Guest

/-- The globals of a guest: start and length of its three regions. -/
structure Globals where
  scriptStart : UInt32
  scriptLength : UInt32
  resultStart : UInt32
  resultLength : UInt32
  errorStart : UInt32
  errorLength : UInt32
  deriving DecidableEq, Repr

inductive Global where
  | scriptStart | scriptLength | resultStart | resultLength | errorStart | errorLength
  deriving DecidableEq, Repr

def Globals.get (globals : Globals) : Global → UInt32
  | .scriptStart => globals.scriptStart
  | .scriptLength => globals.scriptLength
  | .resultStart => globals.resultStart
  | .resultLength => globals.resultLength
  | .errorStart => globals.errorStart
  | .errorLength => globals.errorLength

def Globals.set (globals : Globals) (name : Global) (value : UInt32) : Globals :=
  match name with
  | .scriptStart => { globals with scriptStart := value }
  | .scriptLength => { globals with scriptLength := value }
  | .resultStart => { globals with resultStart := value }
  | .resultLength => { globals with resultLength := value }
  | .errorStart => { globals with errorStart := value }
  | .errorLength => { globals with errorLength := value }

inductive Variable where
  | local
  | global (name : Global)
  deriving DecidableEq, Repr

inductive Operand where
  | word (value : UInt32)
  | spanStart
  | spanLength
  | variable (name : Variable)
  deriving DecidableEq, Repr

inductive Instruction where
  | call (input inputLength output room : Operand)
  | log (start length : Operand)
  | set (name : Variable) (value : Operand)
  | add (left right : Operand)
  | copy (target source length : Operand)
  | fill (target byte length : Operand)
  | grow (pages : Operand)
  | trap
  | trapIfEqual (left right : Operand)
  | finish (value : Operand)
  deriving DecidableEq, Repr

structure Frame where
  globals : Globals
  local' : UInt32
  spanStart : UInt32
  spanLength : UInt32

namespace Frame

def eval (frame : Frame) : Operand → UInt32
  | .word value => value
  | .spanStart => frame.spanStart
  | .spanLength => frame.spanLength
  | .variable .local => frame.local'
  | .variable (.global name) => frame.globals.get name

def set (frame : Frame) (name : Variable) (value : UInt32) : Frame :=
  match name with
  | .local => { frame with local' := value }
  | .global name => { frame with globals := frame.globals.set name value }

end Frame

/-- Changes the memory, or traps. -/
def change {σ : Type} (edit : Memory → Option Memory) (next : Activity σ) : Activity σ :=
  .inspect fun memory =>
    match edit memory with
    | some memory => .store memory.byteAt next
    | none => .trap

/-- The run of a function. Falling off its end gives zero. -/
def execute : List Instruction → Frame → Activity Globals
  | [], frame => .finish frame.globals 0
  | .call input inputLength output room :: rest, frame =>
    .call (frame.eval input) (frame.eval inputLength) (frame.eval output) (frame.eval room) fun code =>
      execute rest { frame with local' := code.toUInt32 }
  | .log start length :: rest, frame => .log (frame.eval start) (frame.eval length) (execute rest frame)
  | .set name value :: rest, frame => execute rest (frame.set name (frame.eval value))
  | .add left right :: rest, frame => execute rest { frame with local' := frame.eval left + frame.eval right }
  | .copy target source length :: rest, frame =>
    change (·.copy? (frame.eval target).toNat (frame.eval source).toNat (frame.eval length).toNat)
      (execute rest frame)
  | .fill target byte length :: rest, frame =>
    change (·.fill? (frame.eval target).toNat (frame.eval byte).toUInt8 (frame.eval length).toNat)
      (execute rest frame)
  | .grow pages :: rest, frame =>
    .grow (frame.eval pages) fun before => execute rest { frame with local' := before }
  | .trap :: _, _ => .trap
  | .trapIfEqual left right :: rest, frame =>
    if frame.eval left = frame.eval right then .trap else execute rest frame
  | .finish value :: _, frame => .finish frame.globals (frame.eval value)

def body (instructions : List Instruction) (globals : Globals) : Activity Globals :=
  execute instructions ⟨globals, 0, 0, 0⟩

def spanBody (instructions : List Instruction) (start length : UInt32) (globals : Globals) :
    Activity Globals :=
  execute instructions ⟨globals, 0, start, length⟩

/-- An accessor: the function that gives a global, one that traps, or one of another type. -/
inductive Accessor where
  | gives (name : Global)
  | traps
  | mistyped
  deriving DecidableEq, Repr

def Accessor.toExport : Accessor → Export Globals
  | gives name => .getter fun globals => .finish globals (globals.get name)
  | traps => .getter fun _ => .trap
  | mistyped => .otherFunction

end ScriptSandbox.Guest
