import ScriptSandbox.Script.Conversion

/-!
# Values as JSON texts

`Value.encode` writes a value as `JSON.stringify` does. Functions, symbols and undefined values have
no text: as properties they are left out, as items they are `null`. An object may name its
substitute by a method `toJSON`, which is given the name under which the object stands.
-/
namespace ScriptSandbox.Script

def unitEscape (unit : UInt16) : List Char :=
  let n := unit.toNat
  ['\\', 'u'] ++ [n / 4096, n / 256 % 16, n / 16 % 16, n % 16].map Bytes.hexDigit

/-- A string between quotes. Lone surrogates are escaped. -/
def quoted (text : Units) : Units :=
  units "\"" ++ ((ScriptSandbox.Units.pieces text).flatMap fun
    | .inl unit => ScriptSandbox.Units.ofText (unitEscape unit)
    | .inr c => ScriptSandbox.Units.ofText (Json.escape c)) ++ units "\""

def bracketed (opening closing : String) (items : List Units) : Units :=
  units opening ++ (units ",").intercalate items ++ units closing

/-- A property with its text. -/
def fieldText (name text : Units) : Units := quoted name ++ units ":" ++ text

/-- What `JSON.stringify` writes for a number. -/
def numberText : Binary64 → Units
  | .finite negative magnitude => units (Decimal.Layout.script.text (.finite negative magnitude))
  | _ => units "null"

namespace Value

mutual

/-- The JSON text of a value that stands under a name; `substitutes` says whether an object may
still name its substitute. -/
def encodeAs (name : Units) (substitutes : Bool) : Value → Run (Option Units)
  | null => pure (some (units "null"))
  | boolean value => pure (some (units (if value then "true" else "false")))
  | number value => pure (some (numberText value))
  | string text => pure (some (quoted text))
  | array items => do return some (bracketed "[" "]" (← encodeItems 0 items))
  | object _ properties => do
    -- The value of a `toJSON` method stands for its object, and is asked for no further one.
    match ← if substitutes then substitute name properties else pure none with
    | some text => return text
    | none => return some (bracketed "\x7b" "\x7d" (← encodeFields properties))
  | bigint _ => raise "TypeError" "bigint are forbidden in JSON.stringify"
  | cycle => raise "TypeError" "circular reference"
  | undefined | symbol _ | echo | method _ => pure none

def encodeItems (index : Nat) : List Value → Run (List Units)
  | [] => pure []
  | item :: rest => do
    -- Unlike a property, an item without a text keeps its place.
    let text ← encodeAs (units (Nat.repr index)) true item
    return text.getD (units "null") :: (← encodeItems (index + 1) rest)

def encodeFields : List Property → Run (List Units)
  | [] => pure []
  | .data name enumerable value :: rest => do
    let text ← if enumerable then encodeAs name true value else pure none
    return (text.map (fieldText name)).toList ++ (← encodeFields rest)
  | .getter name call :: rest => do
    let text ← fun globals => encodeResult name true (call globals) globals
    return (text.map (fieldText name)).toList ++ (← encodeFields rest)

def encodeResult (name : Units) (substitutes : Bool) : Completion → Run (Option Units)
  | .normal value globals => fun _ => encodeAs name substitutes value globals
  | .thrown value globals => fun _ => (.error value, globals)

/-- The text of an object's substitute, if it names one. -/
def substitute (name : Units) : List Property → Run (Option (Option Units))
  | [] => pure none
  | .data own _ value :: rest =>
    if own = units "toJSON" then substituteBy name value else substitute name rest
  | .getter own call :: rest =>
    if own = units "toJSON" then fun globals => substituteByResult name (call globals) globals
    else substitute name rest

/-- The text of the substitute that a getter's value names. -/
def substituteByResult (name : Units) : Completion → Run (Option (Option Units))
  | .normal value globals => fun _ => substituteBy name value globals
  | .thrown value globals => fun _ => (.error value, globals)

/-- The text of the substitute that a value names, if it is a function. -/
def substituteBy (name : Units) : Value → Run (Option (Option Units))
  | echo => pure (some (some (quoted name)))
  | method call => do return some (← fun globals => encodeResult name false (call globals) globals)
  | _ => pure none

end

def encode (value : Value) : Run (Option Units) := encodeAs [] true value

end Value

end ScriptSandbox.Script
