import ScriptSandbox.Text.Utf8

/-!
# Percent encoding

A byte that may not stand in a part of a URL is written as a percent sign and two upper-case
hexadecimal digits. Each part has its own set of such characters; bytes of characters beyond ASCII
are always written this way.
-/
namespace ScriptSandbox.Url.Percent

/-- Controls, and everything beyond ASCII. -/
def isControl (byte : UInt8) : Bool := byte < 0x20 || 0x7F ≤ byte

/-- Whether a byte is encoded when these characters may not stand in a part. -/
def among (characters : String) (byte : UInt8) : Bool :=
  isControl byte || characters.toList.any fun c => c.toNat = byte.toNat

def inFragment : UInt8 → Bool := among " \"<>\x60"

def inPath : UInt8 → Bool := among " \"<>\x60#?\x7b\x7d"

def inUserinfo : UInt8 → Bool := among " \"<>\x60#?\x7b\x7d/:;=@[\\]^|"

def inQuery : UInt8 → Bool := among " \"#<>"

def inSpecialQuery : UInt8 → Bool := among " \"#<>'"

/-- One byte as a percent sign and two digits. -/
def encodeByte (byte : UInt8) : List Char :=
  let digit (n : Nat) : Char := if n < 10 then Char.ofNat (48 + n) else Char.ofNat (55 + n)
  ['%', digit (byte.toNat / 16), digit (byte.toNat % 16)]

/-- A text with the bytes of a set encoded. -/
def encode (isEncoded : UInt8 → Bool) (text : List Char) : List Char :=
  (Utf8.encode text).flatMap fun byte =>
    if isEncoded byte then encodeByte byte else [Char.ofNat byte.toNat]

/-- The bytes of a text in which percent signs before two hexadecimal digits stand for bytes. -/
def decode (bytes : Bytes) : Bytes :=
  go bytes []
where
  value? (byte : UInt8) : Option Nat := Bytes.hexValue? (Char.ofNat byte.toNat)
  go : Bytes → Bytes → Bytes
    | 0x25 :: high :: low :: rest, out =>
      match value? high, value? low with
      | some h, some l => go rest (UInt8.ofNat (16 * h + l) :: out)
      | _, _ => go (high :: low :: rest) (0x25 :: out)
    | byte :: rest, out => go rest (byte :: out)
    | [], out => out.reverse
  termination_by bytes => bytes.length

end ScriptSandbox.Url.Percent
