import ScriptSandbox.Json.Reader

/-!
# Passing over values

The value of an unknown field is passed over. It may be nested to any depth, so the open lists and
objects are kept on a stack. Its grammar is checked; the size of its numbers, the pairing of its
surrogates and the encoding of its strings are not.
-/
namespace ScriptSandbox.Json.Reader

inductive Bracket where
  | list | object
  deriving DecidableEq, Repr

def skipDigits : Reader Unit := do
  if (← digits).isEmpty then fail .invalidNumber else pure ()

def skipExponent : Reader Unit := do
  if ← atExponent then
    skip
    match ← next? with
    | some '+' | some '-' => skip
    | _ => pure ()
    skipDigits
  else pure ()

/-- Passes over a number after its sign. -/
def skipNumber : Reader Unit := do
  match ← digits with
  | [] => fail .invalidNumber
  | 0 :: _ :: _ => fail .invalidNumber
  | _ =>
    if (← next?) = some '.' then do skip; skipDigits; skipExponent
    else skipExponent

/-- The rest of a string that is passed over. -/
def skipStringBytes : Nat → Bytes → Except Fault Bytes
  | 0, _ => .error (.endOfText .string)
  | _ + 1, [] => .error (.endOfText .string)
  | turns + 1, byte :: rest =>
    if byte = 0x22 then .ok rest
    else if byte = 0x5C then
      match rest with
      | [] => .error (.endOfText .string)
      | mark :: rest =>
        if symbol mark = 'u' then
          match hexEscape rest with
          | .ok (_, rest) => skipStringBytes turns rest
          | .error fault => .error fault
        else if symbol mark ∈ ['"', '\\', '/', 'b', 'f', 'n', 'r', 't'] then skipStringBytes turns rest
        else .error .invalidEscape
    else if byte < 0x20 then .error .controlCharacter
    else skipStringBytes turns rest

/-- Passes over a string, its opening quote included. -/
def skipString (steps : Nat) : Reader Unit := do
  skip
  match skipStringBytes (steps + 1) (← get) with
  | .ok rest => set rest
  | .error fault => fail fault

/-- What comes next on the way through a value: a value, or the end of an item of the innermost
bracket. A comma may follow an item that was read. -/
inductive Stage where
  | value
  | afterItem (commaAllowed : Bool)
  deriving DecidableEq, Repr

def skipName (steps : Nat) : Reader Unit := do
  match ← look with
  | none => fail (.endOfText .object)
  | some '"' => skipString steps
  | some _ => fail .nameNotString
  colon

def nextItem (steps : Nat) : Bracket → Reader Unit
  | .list => pure ()
  | .object => skipName steps

/-- The way through a value, for a stack of open brackets. -/
def skipStages (steps : Nat) : Nat → Stage → List Bracket → Reader Unit
  | 0, _, _ => pure ()
  | turns + 1, .value, stack => do
    let scalar : Reader Unit := do
      if stack.isEmpty then pure () else skipStages steps turns (.afterItem true) stack
    match ← look with
    | none => fail (.endOfText .value)
    | some 'n' => do skip; literal ['u', 'l', 'l']; scalar
    | some 't' => do skip; literal ['r', 'u', 'e']; scalar
    | some 'f' => do skip; literal ['a', 'l', 's', 'e']; scalar
    | some '"' => do skipString steps; scalar
    | some '-' => do skip; skipNumber; scalar
    | some '[' => do skip; skipStages steps turns (.afterItem false) (.list :: stack)
    | some '\x7b' => do skip; skipStages steps turns (.afterItem false) (.object :: stack)
    | some c => if '0' ≤ c ∧ c ≤ '9' then do skipNumber; scalar else fail .expectedValue
  | _ + 1, .afterItem _, [] => pure ()
  | turns + 1, .afterItem commaAllowed, bracket :: outer => do
    let closing := match bracket with | .list => ']' | .object => '\x7d'
    match ← look with
    | none => fail (.endOfText (match bracket with | .list => .list | .object => .object))
    | some c =>
      if c = closing then
        skip
        if outer.isEmpty then pure () else skipStages steps turns (.afterItem true) outer
      else if commaAllowed then
        if c = ',' then do skip; nextItem steps bracket; skipStages steps turns .value (bracket :: outer)
        else fail (match bracket with | .list => .expectedListEnd | .object => .expectedObjectEnd)
      else do nextItem steps bracket; skipStages steps turns .value (bracket :: outer)

def skipValue (steps : Nat) : Reader Unit := skipStages steps (2 * steps + 2) .value []

end ScriptSandbox.Json.Reader
