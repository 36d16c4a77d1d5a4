import ScriptSandbox.Script.Decoding

/-!
# Numeric expressions

The value of an arithmetic expression as scripts write it: decimal numerals, named numbers,
parentheses, a sign, and the operators for powers, products, quotients, sums and differences. A
power binds to the right and before a product, a product before a sum.
-/
namespace ScriptSandbox.Script

def namedNumbers : List (String × Binary64) :=
  [("NaN", .nan), ("Infinity", .infinite false),
   ("Number.MAX_VALUE", .finite false (Nat.pow 2 2098 - Nat.pow 2 2045)),
   ("Number.MIN_VALUE", .finite false 1), ("Number.MAX_SAFE_INTEGER", .ofInt (Int.pow 2 53 - 1)),
   ("Number.MIN_SAFE_INTEGER", .ofInt (1 - Int.pow 2 53)), ("Number.EPSILON", .finite false (Nat.pow 2 1022)),
   ("Number.POSITIVE_INFINITY", .infinite false), ("Number.NEGATIVE_INFINITY", .infinite true),
   ("Number.NaN", .nan)]

def readNamed (text : List Char) : Option (Binary64 × List Char) :=
  let isPart (c : Char) : Bool := Ascii.isLetter c || c = '.' || c = '_'
  (namedNumbers.lookup (String.ofList (text.takeWhile isPart))).map (·, text.dropWhile isPart)

/-- Reads a numeral, which may lack the digits on one side of its point. -/
def readNumeral (text : List Char) : Option (Binary64 × List Char) := do
  let (whole, rest) := takeDigits text
  let (fraction, rest) := match rest with
    | '.' :: rest => takeDigits rest
    | _ => ([], rest)
  if whole.isEmpty && fraction.isEmpty then none
  let (exponent, rest) ← readExponent rest
  return (.ofDecimal false (digitsNumber (whole ++ fraction)) (exponent - fraction.length), rest)

/-- A power, where the exponent is an integer. -/
def power (base exponent : Binary64) : Binary64 :=
  match exponent.toInt? with
  | some n => base.powInt n
  | none => .nan

mutual

/-- Reads a number, a name, or an expression in parentheses, with its sign and its power. -/
def readFactor : Nat → List Char → Option (Binary64 × List Char)
  | 0, _ => none
  | turns + 1, text =>
    match skipBlanks text with
    | '-' :: rest => do
      let (value, rest) ← readFactor turns rest
      return (value.neg, rest)
    | '+' :: rest => readFactor turns rest
    | text => do
      let (base, rest) ← match text with
        | '(' :: rest => do
          let (value, rest) ← readSum turns rest
          let ')' :: rest := skipBlanks rest | none
          some (value, rest)
        | text => readNumeral text <|> readNamed text
      match skipBlanks rest with
      -- A power binds to the right, and stronger than the sign before its base.
      | '*' :: '*' :: rest =>
        let (exponent, rest) ← readFactor turns rest
        return (power base exponent, rest)
      | _ => return (base, rest)

def readProduct : Nat → Binary64 → List Char → Option (Binary64 × List Char)
  | 0, _, _ => none
  | turns + 1, left, text =>
    match skipBlanks text with
    | '*' :: rest => do
      let (right, rest) ← readFactor turns rest
      readProduct turns (left.mul right) rest
    | '/' :: rest => do
      let (right, rest) ← readFactor turns rest
      readProduct turns (left.div right) rest
    | _ => some (left, text)

def readTerms : Nat → Binary64 → List Char → Option (Binary64 × List Char)
  | 0, _, _ => none
  | turns + 1, left, text =>
    match skipBlanks text with
    | '+' :: rest => do
      let (first, rest) ← readFactor turns rest
      let (right, rest) ← readProduct turns first rest
      readTerms turns (left.add right) rest
    | '-' :: rest => do
      let (first, rest) ← readFactor turns rest
      let (right, rest) ← readProduct turns first rest
      readTerms turns (left.sub right) rest
    | _ => some (left, text)

def readSum : Nat → List Char → Option (Binary64 × List Char)
  | 0, _ => none
  | turns + 1, text => do
    let (first, rest) ← readFactor turns text
    let (left, rest) ← readProduct turns first rest
    readTerms turns left rest

end

def number? (text : String) : Option Binary64 :=
  let characters := text.toList
  match readSum (2 * characters.length + 2) characters with
  | some (value, rest) => if (skipBlanks rest).isEmpty then some value else none
  | none => none

end ScriptSandbox.Script
