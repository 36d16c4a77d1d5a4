/-!
# Byte strings

Request payloads, module images, file contents and guest memory are byte strings. Their hexadecimal
form writes two lower-case digits a byte.
-/
namespace ScriptSandbox

/-- A finite string of bytes. -/
abbrev Bytes := List UInt8

namespace Bytes

def hexDigit (n : Nat) : Char :=
  if n < 10 then Char.ofNat (48 + n) else Char.ofNat (87 + n)

/-- Two lower-case hexadecimal digits for each byte. -/
def toHex (bytes : Bytes) : List Char :=
  bytes.flatMap fun byte => [hexDigit (byte.toNat / 16), hexDigit (byte.toNat % 16)]

def hexValue? (c : Char) : Option Nat :=
  if '0' ≤ c ∧ c ≤ '9' then some (c.toNat - 48)
  else if 'a' ≤ c ∧ c ≤ 'f' then some (c.toNat - 87)
  else if 'A' ≤ c ∧ c ≤ 'F' then some (c.toNat - 55)
  else none

/-- Reads pairs of hexadecimal digits; an odd digit or another character is refused. -/
def ofHex? (digits : List Char) : Option Bytes :=
  go digits []
where
  go : List Char → Bytes → Option Bytes
    | [], out => some out.reverse
    | high :: low :: rest, out =>
      match hexValue? high, hexValue? low with
      | some h, some l => go rest (UInt8.ofNat (16 * h + l) :: out)
      | _, _ => none
    | [_], _ => none

end Bytes

end ScriptSandbox
