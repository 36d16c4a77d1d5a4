import ScriptSandbox.Json.Value
import ScriptSandbox.Decimal.Layout
import ScriptSandbox.Text.Utf8

/-!
# Compact JSON texts

No blanks, fields in the order of the object, and in strings only the characters escaped that must
be: the quote, the backslash and the control characters below the blank. An infinite or undefined
number is written as `null`.
-/
namespace ScriptSandbox.Json

def escape (c : Char) : List Char :=
  match c with
  | '"' => ['\\', '"']
  | '\\' => ['\\', '\\']
  | '\x08' => ['\\', 'b']
  | '\x0c' => ['\\', 'f']
  | '\n' => ['\\', 'n']
  | '\r' => ['\\', 'r']
  | '\t' => ['\\', 't']
  | c =>
    if c.toNat < 0x20 then
      ['\\', 'u', '0', '0', Bytes.hexDigit (c.toNat / 16), Bytes.hexDigit (c.toNat % 16)]
    else [c]

def quote (text : List Char) : List Char := '"' :: (text.flatMap escape ++ ['"'])

/-- The decimal digits of an integer, after a sign when it is negative. -/
def integerText (value : Int) : List Char :=
  if value < 0 then '-' :: (Nat.repr value.natAbs).toList else (Nat.repr value.natAbs).toList

def Number.render : Number → List Char
  | .integer value => integerText value
  | .float value => Decimal.Layout.json.render value

mutual

/-- The compact text of a value. -/
def render : Json → List Char
  | .null => "null".toList
  | .boolean true => "true".toList
  | .boolean false => "false".toList
  | .number value => value.render
  | .string text => quote text.toList
  | .array [] => ['[', ']']
  | .array (first :: rest) => '[' :: (render first ++ renderItems rest)
  | .object [] => ['\x7b', '\x7d']
  | .object ((name, value) :: rest) =>
    '\x7b' :: (quote name.toList ++ ':' :: (render value ++ renderFields rest))

/-- The items of an array after the first, and its end. -/
def renderItems : List Json → List Char
  | [] => [']']
  | item :: rest => ',' :: (render item ++ renderItems rest)

/-- The fields of an object after the first, and its end. -/
def renderFields : List (String × Json) → List Char
  | [] => ['\x7d']
  | (name, value) :: rest => ',' :: (quote name.toList ++ ':' :: (render value ++ renderFields rest))

end

def text (value : Json) : String := String.ofList value.render

def toBytes (value : Json) : Bytes := Utf8.encode value.render

end ScriptSandbox.Json
