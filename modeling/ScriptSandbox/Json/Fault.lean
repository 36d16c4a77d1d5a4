import ScriptSandbox.Json.Printer
import ScriptSandbox.Text.Escaped

/-!
# What can be wrong with a JSON text

A text can break the grammar, and a well-formed text can hold something else than what is expected
at its place. Each cause has one message.
-/
namespace ScriptSandbox.Json

inductive Place where
  | value | list | object | string
  deriving DecidableEq, Repr

inductive Found where
  | null
  | boolean (value : Bool)
  | number (value : Number)
  | string (text : String)
  | sequence
  | map
  deriving DecidableEq, Repr

inductive Fault where
  | endOfText (place : Place)
  | expectedValue
  | expectedLiteral
  | expectedColon
  | expectedListEnd
  | expectedObjectEnd
  | nameNotString
  | trailingComma
  | trailingCharacters
  | invalidNumber
  | numberOutOfRange
  | invalidEscape
  | controlCharacter
  | loneSurrogate
  | unfinishedPair
  | invalidEncoding
  | tooDeep
  | invalidType (found : Found) (expected : String)
  | invalidValue (found : Found) (expected : String)
  | invalidLength (length : Nat) (expected : String)
  | duplicateField (name : String)
  | missingField (name : String)
  | unknownVariant (name : String) (known : List String)
  deriving DecidableEq, Repr

def Found.ofJson : Json → Found
  | .null => .null
  | .boolean value => .boolean value
  | .number value => .number value
  | .string text => .string text
  | .array _ => .sequence
  | .object _ => .map

/-- A text between grave accents. -/
def accented (text : String) : String := "\x60" ++ text ++ "\x60"

def Found.describe : Found → String
  | .null => "null"
  | .boolean value => "boolean " ++ accented (if value then "true" else "false")
  | .number (.integer value) => "integer " ++ accented (String.ofList (integerText value))
  | .number (.float value) => "floating point " ++ accented (Decimal.Layout.json.text value)
  | .string text => "string " ++ Escaped.quoted text
  | .sequence => "sequence"
  | .map => "map"

def Place.describe : Place → String
  | .value => "a value"
  | .list => "a list"
  | .object => "an object"
  | .string => "a string"

def Fault.message : Fault → String
  | .endOfText place => "EOF while parsing " ++ place.describe
  | .expectedValue => "expected value"
  | .expectedLiteral => "expected ident"
  | .expectedColon => "expected " ++ accented ":"
  | .expectedListEnd => "expected " ++ accented "," ++ " or " ++ accented "]"
  | .expectedObjectEnd => "expected " ++ accented "," ++ " or " ++ accented "\x7d"
  | .nameNotString => "key must be a string"
  | .trailingComma => "trailing comma"
  | .trailingCharacters => "trailing characters"
  | .invalidNumber => "invalid number"
  | .numberOutOfRange => "number out of range"
  | .invalidEscape => "invalid escape"
  | .controlCharacter => "control character (\\u0000-\\u001F) found while parsing a string"
  | .loneSurrogate => "lone leading surrogate in hex escape"
  | .unfinishedPair => "unexpected end of hex escape"
  | .invalidEncoding => "invalid unicode code point"
  | .tooDeep => "recursion limit exceeded"
  | .invalidType found expected => "invalid type: " ++ found.describe ++ ", expected " ++ expected
  | .invalidValue found expected => "invalid value: " ++ found.describe ++ ", expected " ++ expected
  | .invalidLength length expected => "invalid length " ++ Nat.repr length ++ ", expected " ++ expected
  | .duplicateField name => "duplicate field " ++ accented name
  | .missingField name => "missing field " ++ accented name
  | .unknownVariant name known =>
    "unknown variant " ++ accented name ++ ", expected one of " ++
      String.intercalate ", " (known.map accented)

end ScriptSandbox.Json
