import ScriptSandbox.Json.Fault

/-!
# Reading JSON texts

A reader takes bytes from the front of a text or stops with the first fault it meets. `Reader.value`
reads any value; lists and objects may be nested to a depth, and reading a list or a string takes at
most `steps` turns, for which the length of the whole text is always enough. Numbers are collected
digit by digit into a 64-bit significand; `Parts.toBinary64` then scales it by a power of ten.
-/
namespace ScriptSandbox.Json

/-- Takes bytes from the front of a text. -/
abbrev Reader := StateT Bytes (Except Fault)

namespace Reader

def fail {α : Type} (fault : Fault) : Reader α := fun _ => .error fault

/-- The byte as a character of its own; every byte from 128 on stands for no syntax. -/
def symbol (byte : UInt8) : Char := Char.ofNat byte.toNat

def isBlank (byte : UInt8) : Bool := byte = 0x20 || byte = 0x0A || byte = 0x09 || byte = 0x0D

/-- The next byte, left where it is. -/
def next? : Reader (Option Char) := fun text => .ok (text.head?.map symbol, text)

/-- Skips blanks and looks at the byte after them. -/
def look : Reader (Option Char) := fun text =>
  let rest := text.dropWhile isBlank
  .ok (rest.head?.map symbol, rest)

def skip : Reader Unit := fun text => .ok ((), text.tail)

def take (atEnd : Fault) : Reader UInt8 := fun
  | [] => .error atEnd
  | byte :: rest => .ok (byte, rest)

def digits : Reader (List Nat) := fun text =>
  let isDigit (byte : UInt8) : Bool := 0x30 ≤ byte && byte ≤ 0x39
  .ok ((text.takeWhile isDigit).map (fun byte => byte.toNat - 48), text.dropWhile isDigit)

/-- Takes the letters of `null`, `true` or `false` after the first. -/
def literal : List Char → Reader Unit
  | [] => pure ()
  | c :: rest => do
    let byte ← take (.endOfText .value)
    if symbol byte = c then literal rest else fail .expectedLiteral

/-! ### Numbers -/

/-- A number as it is written: `significand` · 10^`exponent`. -/
structure Parts where
  negative : Bool
  significand : Nat
  exponent : Int

/-- Integers below this bound fit a significand. -/
def significandBound : Nat := UInt64.size

/-- Exponents from this bound on are not kept. -/
def exponentBound : Nat := Nat.pow 2 31

/-- Scales by powers of ten of at most 308, which are themselves rounded. A nonzero number beyond
the largest double is refused; one below the smallest becomes zero. -/
def scale (value : Binary64) (exponent : Int) : Nat → Except Fault Binary64
  | 0 => .ok value
  | turns + 1 =>
    if exponent.natAbs ≤ 308 then
      let power := Binary64.ofDecimal false 1 exponent.natAbs
      if 0 ≤ exponent then
        match value.mul power with
        | .infinite _ => .error .numberOutOfRange
        | product => .ok product
      else .ok (value.div power)
    else if value.isZero then .ok value
    -- A significand is one at least, so a larger power makes it too large; a smaller one may take
    -- several turns.
    else if 0 ≤ exponent then .error .numberOutOfRange
    else scale (value.div (Binary64.ofDecimal false 1 308)) (exponent + 308) turns

def Parts.toBinary64 (parts : Parts) : Except Fault Binary64 := do
  let value ← scale (.ofInt parts.significand) parts.exponent (parts.exponent.natAbs / 308 + 1)
  return if parts.negative then value.neg else value

/-- Adds digits to a significand as long as they fit. The rest of them is given back. -/
def collect (significand : Nat) : List Nat → Nat × List Nat
  | [] => (significand, [])
  | d :: rest =>
    if significand * 10 + d < significandBound then collect (significand * 10 + d) rest
    else (significand, d :: rest)

def finish (parts : Parts) : Reader Binary64 :=
  match parts.toBinary64 with
  | .ok value => pure value
  | .error fault => fail fault

def atExponent : Reader Bool := do
  return match ← next? with
    | some 'e' | some 'E' => true
    | _ => false

def digitsValue (ds : List Nat) : Nat := ds.foldl (fun value d => value * 10 + d) 0

/-- Whether digits reach the exponent bound; a digit at a time, so that the rest does not matter. -/
def reachesBound (ds : List Nat) : Bool :=
  go 0 ds
where
  go (value : Nat) : List Nat → Bool
    | [] => false
    | d :: rest => if value * 10 + d < exponentBound then go (value * 10 + d) rest else true

/-- Reads an exponent, mark included, and finishes the number. -/
def exponent (parts : Parts) : Reader Binary64 := do
  skip
  let negative ← match ← next? with
    | some '+' => do skip; pure false
    | some '-' => do skip; pure true
    | _ => pure false
  match ← next? with
  | none => fail (.endOfText .value)
  | some c =>
    if '0' ≤ c ∧ c ≤ '9' then
      let ds ← digits
      if reachesBound ds then
        -- Zero stays zero under any exponent, and a tiny number becomes zero.
        if parts.significand ≠ 0 ∧ ¬negative then fail .numberOutOfRange
        else pure (.finite parts.negative 0)
      else
        let size : Int := digitsValue ds
        finish { parts with
          exponent := if negative then parts.exponent - size else parts.exponent + size }
    else fail .invalidNumber

/-- Reads a fraction, point included, and what follows it. Digits that do not fit are passed
over. -/
def fraction (parts : Parts) : Reader Binary64 := do
  skip
  let ds ← digits
  if ds.isEmpty then
    match ← next? with
    | none => fail (.endOfText .value)
    | some _ => fail .invalidNumber
  else
    let (significand, left) := collect parts.significand ds
    let parts := { parts with
      significand := significand, exponent := parts.exponent - (ds.length - left.length : Nat) }
    if ← atExponent then exponent parts else finish parts

def number (negative : Bool) : Reader Number := do
  let ds ← digits
  match ds with
  | [] =>
    match ← next? with
    | none => fail (.endOfText .value)
    | some _ => fail .invalidNumber
  | 0 :: _ :: _ => fail .invalidNumber
  | ds =>
    let (significand, left) := collect 0 ds
    let parts : Parts := ⟨negative, significand, left.length⟩
    match ← next? with
    | some '.' => return .float (← fraction parts)
    | some 'e' | some 'E' => return .float (← exponent parts)
    | _ =>
      -- What is no integer of 64 bits, and negative zero, is read as a double.
      if ¬left.isEmpty then return .float (← finish parts)
      else if ¬negative then return .integer significand
      else if significand = 0 ∨ Int64.minValue.toInt.natAbs < significand then
        return .float (Binary64.ofInt significand).neg
      else return .integer (-significand)

/-! ### Strings -/

/-- The value of four hexadecimal digits after `\u`. -/
def hexEscape : Bytes → Except Fault (Nat × Bytes)
  | a :: b :: c :: d :: rest =>
    match [a, b, c, d].mapM (fun byte => Bytes.hexValue? (symbol byte)) with
    | some values => .ok (values.foldl (fun code v => 16 * code + v) 0, rest)
    | none => .error .invalidEscape
  | _ => .error (.endOfText .string)

/-- What follows the first half of a surrogate pair: the second half, escaped as well. -/
def secondHalf (high : Nat) : Bytes → Except Fault (Char × Bytes)
  | [] => .error (.endOfText .string)
  | 0x5C :: [] => .error (.endOfText .string)
  | 0x5C :: 0x75 :: rest => do
    let (low, rest) ← hexEscape rest
    if 0xDC00 ≤ low ∧ low < 0xE000 then
      return (Char.ofNat (0x10000 + (high - 0xD800) * 1024 + (low - 0xDC00)), rest)
    else .error .loneSurrogate
  | _ => .error .unfinishedPair

/-- The character of an escape, read after its backslash. -/
def escaped : Bytes → Except Fault (Char × Bytes)
  | [] => .error (.endOfText .string)
  | byte :: rest =>
    match symbol byte with
    | '"' => .ok ('"', rest)
    | '\\' => .ok ('\\', rest)
    | '/' => .ok ('/', rest)
    | 'b' => .ok ('\x08', rest)
    | 'f' => .ok ('\x0c', rest)
    | 'n' => .ok ('\n', rest)
    | 'r' => .ok ('\r', rest)
    | 't' => .ok ('\t', rest)
    | 'u' => do
      let (code, rest) ← hexEscape rest
      -- A second half of a pair cannot come first.
      if 0xDC00 ≤ code ∧ code < 0xE000 then .error .loneSurrogate
      else if 0xD800 ≤ code ∧ code < 0xDC00 then secondHalf code rest
      else return (Char.ofNat code, rest)
    | _ => .error .invalidEscape

/-- The bytes of a string up to its closing quote, escapes resolved, in reverse. -/
def stringBytes (reversed : Bytes) : Nat → Bytes → Except Fault (Bytes × Bytes)
  | 0, _ => .error (.endOfText .string)
  | _ + 1, [] => .error (.endOfText .string)
  | turns + 1, byte :: rest =>
    if byte = 0x22 then .ok (reversed, rest)
    else if byte = 0x5C then
      match escaped rest with
      | .ok (c, rest) => stringBytes ((String.utf8EncodeChar c).reverse ++ reversed) turns rest
      | .error fault => .error fault
    else if byte < 0x20 then .error .controlCharacter
    else stringBytes (byte :: reversed) turns rest

/-- Reads a string, its opening quote included. Whether its bytes are UTF-8 is decided at its
end. -/
def string (steps : Nat) : Reader String := do
  skip
  let (reversed, rest) ← stringBytes [] (steps + 1) (← get)
  set rest
  match Utf8.decode? reversed.reverse with
  | some text => pure (String.ofList text)
  | none => fail .invalidEncoding

/-! ### Lists and objects -/

/-- Whether another item of a list follows. The comma before it is taken. -/
def moreItems (first : Bool) : Reader Bool := do
  match ← look with
  | none => fail (.endOfText .list)
  | some ']' => pure false
  | some c =>
    if first then pure true
    else if c = ',' then
      skip
      match ← look with
      | none => fail (.endOfText .value)
      | some ']' => fail .trailingComma
      | some _ => pure true
    else fail .expectedListEnd

/-- Whether another field of an object follows. The comma before it is taken. -/
def moreFields (first : Bool) : Reader Bool := do
  match ← look with
  | none => fail (.endOfText .object)
  | some '\x7d' => pure false
  | some c =>
    if first then if c = '"' then pure true else fail .nameNotString
    else if c = ',' then
      skip
      match ← look with
      | none => fail (.endOfText .value)
      | some '"' => pure true
      | some '\x7d' => fail .trailingComma
      | some _ => fail .nameNotString
    else fail .expectedObjectEnd

def endList : Reader Unit := do
  match ← look with
  | none => fail (.endOfText .list)
  | some ']' => skip
  | some ',' =>
    skip
    match ← look with
    | some ']' => fail .trailingComma
    | _ => fail .trailingCharacters
  | some _ => fail .trailingCharacters

def endObject : Reader Unit := do
  match ← look with
  | none => fail (.endOfText .object)
  | some '\x7d' => skip
  | some ',' => fail .trailingComma
  | some _ => fail .trailingCharacters

def colon : Reader Unit := do
  match ← look with
  | none => fail (.endOfText .object)
  | some ':' => skip
  | some _ => fail .expectedColon

/-- Reads the items of a list up to its end, in reverse. -/
def items {α : Type} (item : Reader α) (first : Bool) (found : List α) : Nat → Reader (List α)
  | 0 => pure found
  -- Each item takes a byte at least, so the bytes of the text are turns enough.
  | turns + 1 => do
    if ← moreItems first then items item false ((← item) :: found) turns else pure found

/-- Reads the fields of an object up to its end, and folds them. -/
def fields {σ : Type} (steps : Nat) (field : String → σ → Reader σ) (first : Bool) (state : σ) :
    Nat → Reader σ
  | 0 => pure state
  | turns + 1 => do
    if ← moreFields first then
      let name ← string steps
      fields steps field false (← field name state) turns
    else pure state

/-- Reads a value that holds no other values, or leaves a list or an object to `container`. -/
def scalarOr (steps : Nat) (container : Char → Reader Json) : Reader Json := do
  match ← look with
  | none => fail (.endOfText .value)
  | some 'n' => do skip; literal ['u', 'l', 'l']; pure .null
  | some 't' => do skip; literal ['r', 'u', 'e']; pure (.boolean true)
  | some 'f' => do skip; literal ['a', 'l', 's', 'e']; pure (.boolean false)
  | some '"' => return .string (← string steps)
  | some '-' => do skip; return .number (← number true)
  | some c =>
    if c = '[' ∨ c = '\x7b' then container c
    else if '0' ≤ c ∧ c ≤ '9' then return .number (← number false)
    else fail .expectedValue

/-- Reads a list or an object whose items are read by `inner`. -/
def container (steps : Nat) (inner : Reader Json) (bracket : Char) : Reader Json := do
  skip
  if bracket = '[' then
    let found ← items inner true [] (steps + 1)
    endList
    return .array found.reverse
  else
    let found ← fields steps (fun name found => do colon; return setField name (← inner) found)
      true [] (steps + 1)
    endObject
    return .object found

/-- Reads any value whose lists and objects are nested at most `depth` deep. -/
def value (steps : Nat) : (depth : Nat) → Reader Json
  | 0 => scalarOr steps fun _ => fail .tooDeep
  | depth + 1 => scalarOr steps (container steps (value steps depth))

def atEnd : Reader Unit := do
  match ← look with
  | none => pure ()
  | some _ => fail .trailingCharacters

/-- Lists and objects may be nested this deep. -/
def maxDepth : Nat := 127

def run {α : Type} (reader : (steps : Nat) → Reader α) (text : Bytes) : Except Fault α :=
  match reader text.length text with
  | .error fault => .error fault
  | .ok (found, rest) =>
    match atEnd rest with
    | .error fault => .error fault
    | .ok _ => .ok found

end Reader

def parse (text : Bytes) : Except Fault Json :=
  Reader.run (fun steps => Reader.value steps Reader.maxDepth) text

end ScriptSandbox.Json
