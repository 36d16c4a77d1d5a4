import ScriptSandbox.Text.Bytes

/-!
# ASCII letters and the token characters of HTTP

Method names, tool names, schemes and host names compare without regard to the case of the letters A
to Z; all other characters compare as they are.
-/
namespace ScriptSandbox.Ascii

/-- Lower-cases the letters A to Z and nothing else. -/
def lower (c : Char) : Char :=
  if 'A' ≤ c ∧ c ≤ 'Z' then Char.ofNat (c.toNat + 32) else c

/-- Upper-cases the letters a to z and nothing else. -/
def upper (c : Char) : Char :=
  if 'a' ≤ c ∧ c ≤ 'z' then Char.ofNat (c.toNat - 32) else c

def lowerString (text : String) : String := String.ofList (text.toList.map lower)

def upperString (text : String) : String := String.ofList (text.toList.map upper)

def holds (c : Char) : Bool := c.toNat < 128

def isDigit (c : Char) : Bool := '0' ≤ c && c ≤ '9'

/-- A letter A to Z of either case. -/
def isLetter (c : Char) : Bool := ('a' ≤ c && c ≤ 'z') || ('A' ≤ c && c ≤ 'Z')

def isHexDigit (c : Char) : Bool := (Bytes.hexValue? c).isSome

/-- A character that an HTTP method or header name may hold. -/
def isTokenChar (c : Char) : Bool :=
  isDigit c || isLetter c || c ∈ "!#$%&'*+-.^_\x60|~".toList

def isToken (text : String) : Bool := !text.isEmpty && text.toList.all isTokenChar

end ScriptSandbox.Ascii
