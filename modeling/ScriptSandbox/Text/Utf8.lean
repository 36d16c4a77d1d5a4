import ScriptSandbox.Text.Bytes

/-!
# UTF-8

Characters are written by `encode`. Reading runs one machine over the bytes, which gives a piece for
each character and a piece for each broken sequence. `decode?` refuses a text with a broken piece;
`decodeLossy` puts the replacement character in its place. A broken sequence is as long as a prefix
of some character can be, so a cut character costs one replacement and no byte that follows it.
-/
namespace ScriptSandbox.Utf8

def encode (text : List Char) : Bytes := text.flatMap String.utf8EncodeChar

def ofString (text : String) : Bytes := encode text.toList

/-- The replacement character, which stands for a broken sequence. -/
def replacement : Char := '\uFFFD'

/-- Where reading stands: between characters, or inside one. Inside, `owed` more bytes are due, the
next of them between `low` and `high`, and `code` holds the bits read so far. -/
inductive State where
  | between
  | inside (owed : Nat) (low high : UInt8) (code : Nat)
  deriving DecidableEq, Repr

/-- What a byte means between characters: a character of its own, the start of a longer one, or a
broken sequence of one byte. -/
def start (byte : UInt8) : List (Option Char) × State :=
  let code := byte.toNat
  if byte < 0x80 then ([some (Char.ofNat code)], .between)
  else if byte < 0xC2 then ([none], .between)
  else if byte < 0xE0 then ([], .inside 1 0x80 0xBF (code % 32))
  else if byte < 0xF0 then
    ([], .inside 2 (if byte = 0xE0 then 0xA0 else 0x80) (if byte = 0xED then 0x9F else 0xBF) (code % 16))
  else if byte < 0xF5 then
    ([], .inside 3 (if byte = 0xF0 then 0x90 else 0x80) (if byte = 0xF4 then 0x8F else 0xBF) (code % 8))
  else ([none], .between)

/-- One byte: the pieces that it completes, and where reading stands after it. A byte that does not
continue the open character breaks it off and is then read as a first byte. -/
def step : State → UInt8 → List (Option Char) × State
  | .between, byte => start byte
  | .inside owed low high code, byte =>
    if low ≤ byte ∧ byte ≤ high then
      let code := code * 64 + byte.toNat % 64
      if owed ≤ 1 then ([some (Char.ofNat code)], .between)
      else ([], .inside (owed - 1) 0x80 0xBF code)
    else
      let (pieces, state) := start byte
      (none :: pieces, state)

/-- What the end of the text adds: an open character is a broken sequence. -/
def finish : State → List (Option Char)
  | .between => []
  | .inside .. => [none]

/-- The pieces of a byte string, `none` for a broken sequence. -/
def pieces (bytes : Bytes) : List (Option Char) :=
  let (reversed, state) := bytes.foldl
    (fun (reversed, state) byte =>
      let (found, next) := step state byte
      (found.reverse ++ reversed, next))
    ([], State.between)
  reversed.reverse ++ finish state

def decode? (bytes : Bytes) : Option (List Char) :=
  let found := pieces bytes
  if found.all Option.isSome then some (found.filterMap id) else none

/-- The characters of a byte string, the replacement character for each broken sequence. -/
def decodeLossy (bytes : Bytes) : List Char :=
  (pieces bytes).map (·.getD replacement)

def toStringLossy (bytes : Bytes) : String := String.ofList (decodeLossy bytes)

/-- Whether a text may be cut at this place: not before a continuation byte. -/
def isBoundary (bytes : Bytes) (place : Nat) : Bool :=
  match bytes[place]? with
  | none => place ≤ bytes.length
  | some byte => byte < 0x80 || 0xC0 ≤ byte

end ScriptSandbox.Utf8
