import ScriptSandbox.Script.Conversion
import ScriptSandbox.Text.Ascii

/-!
# JSON texts as values

`Value.decode?` reads a text as `JSON.parse` does. Numbers are rounded to the nearest double, a
string may hold a lone surrogate by its escape, and of two properties with one name the later value
counts. Every reader gets a number of turns, for which the length of the text is enough.
-/
namespace ScriptSandbox.Script

def skipBlanks (text : List Char) : List Char :=
  text.dropWhile fun c => c = ' ' || c = '\t' || c = '\n' || c = '\r'

def takeDigits (text : List Char) : List Char × List Char := text.span Ascii.isDigit

def digitsNumber (digits : List Char) : Nat := digits.foldl (fun value c => 10 * value + (c.toNat - 48)) 0

/-- Reads the exponent of a number, if there is one. -/
def readExponent (text : List Char) : Option (Int × List Char) :=
  let signed (negative : Bool) (rest : List Char) : Option (Int × List Char) :=
    match takeDigits rest with
    | ([], _) => none
    | (digits, rest) =>
      some (if negative then -(digitsNumber digits : Int) else digitsNumber digits, rest)
  match text with
  | 'e' :: '-' :: rest | 'E' :: '-' :: rest => signed true rest
  | 'e' :: '+' :: rest | 'E' :: '+' :: rest => signed false rest
  | 'e' :: rest | 'E' :: rest => signed false rest
  | _ => some (0, text)

/-- Reads the digits after a point, if there is one. -/
def readFraction : List Char → Option (List Char × List Char)
  | '.' :: rest =>
    match takeDigits rest with
    | ([], _) => none
    | (digits, rest) => some (digits, rest)
  | text => some ([], text)

/-- Reads a number without a sign. A zero is not followed by a further digit before the point. -/
def readMagnitude (negative : Bool) (text : List Char) : Option (Binary64 × List Char) := do
  let (whole, rest) ← match takeDigits text with
    | ([], _) | ('0' :: _ :: _, _) => none
    | found => some found
  let (fraction, rest) ← readFraction rest
  let (exponent, rest) ← readExponent rest
  return (.ofDecimal negative (digitsNumber (whole ++ fraction)) (exponent - fraction.length), rest)

def readNumber : List Char → Option (Binary64 × List Char)
  | '-' :: rest => readMagnitude true rest
  | text => readMagnitude false text

def readUnit : List Char → Option (UInt16 × List Char)
  | a :: b :: c :: d :: rest => do
    let digits ← [a, b, c, d].mapM Bytes.hexValue?
    return (UInt16.ofNat (digits.foldl (fun value digit => 16 * value + digit) 0), rest)
  | _ => none

def escaped? : Char → Option Char
  | '"' => some '"'
  | '\\' => some '\\'
  | '/' => some '/'
  | 'b' => some '\x08'
  | 'f' => some '\x0c'
  | 'n' => some '\n'
  | 'r' => some '\r'
  | 't' => some '\t'
  | _ => none

/-- Reads a string after its first quote. -/
def readString : Nat → List Char → Units → Option (Units × List Char)
  | 0, _, _ => none
  | turns + 1, text, found =>
    match text with
    | '"' :: rest => some (found.reverse, rest)
    | '\\' :: 'u' :: rest => do
      -- Escaped units are kept one by one, so a lone surrogate is fine here.
      let (unit, rest) ← readUnit rest
      readString turns rest (unit :: found)
    | '\\' :: c :: rest => do
      let c ← escaped? c
      readString turns rest ((ScriptSandbox.Units.ofChar c).reverse ++ found)
    | c :: rest =>
      if c.toNat < 0x20 then none
      else readString turns rest ((ScriptSandbox.Units.ofChar c).reverse ++ found)
    | [] => none

mutual

def readValue : Nat → List Char → Option (Value × List Char)
  | 0, _ => none
  | turns + 1, text =>
    match skipBlanks text with
    | 'n' :: 'u' :: 'l' :: 'l' :: rest => some (.null, rest)
    | 't' :: 'r' :: 'u' :: 'e' :: rest => some (.boolean true, rest)
    | 'f' :: 'a' :: 'l' :: 's' :: 'e' :: rest => some (.boolean false, rest)
    | '"' :: rest => do
      let (found, rest) ← readString (rest.length + 1) rest []
      return (.string found, rest)
    | '[' :: rest =>
      match skipBlanks rest with
      | ']' :: rest => some (.array [], rest)
      | _ => do
        let (items, rest) ← readItems turns rest
        return (.array items, rest)
    | '\x7b' :: rest =>
      match skipBlanks rest with
      | '\x7d' :: rest => some (.object .object [], rest)
      | _ => do
        let (fields, rest) ← readFields turns rest
        return (.ofProperties .object fields, rest)
    | text => do
      let (value, rest) ← readNumber text
      return (.number value, rest)

def readItems : Nat → List Char → Option (List Value × List Char)
  | 0, _ => none
  | turns + 1, text => do
    let (item, rest) ← readValue turns text
    match skipBlanks rest with
    | ']' :: rest => return ([item], rest)
    | ',' :: rest =>
      let (items, rest) ← readItems turns rest
      return (item :: items, rest)
    | _ => none

def readFields : Nat → List Char → Option (List Property × List Char)
  | 0, _ => none
  | turns + 1, text =>
    match skipBlanks text with
    | '"' :: rest => do
      let (name, rest) ← readString (rest.length + 1) rest []
      let ':' :: rest := skipBlanks rest | none
      let (value, rest) ← readValue turns rest
      match skipBlanks rest with
      | '\x7d' :: rest => return ([.data name true value], rest)
      | ',' :: rest =>
        let (fields, rest) ← readFields turns rest
        return (.data name true value :: fields, rest)
      | _ => none
    | _ => none

end

def Value.decode? (text : List Char) : Option Value :=
  match readValue (text.length + 1) text with
  | some (value, rest) => if (skipBlanks rest).isEmpty then some value else none
  | none => none

end ScriptSandbox.Script
