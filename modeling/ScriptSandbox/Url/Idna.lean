import ScriptSandbox.Url.Idna.Direction
import ScriptSandbox.Url.Idna.Joining
import ScriptSandbox.Url.Idna.Mapping
import ScriptSandbox.Url.Punycode

/-!
# Domain names in ASCII

A domain name may be written in any script. `toAscii` maps its characters, composes them, checks
each label, and writes those with other than ASCII characters in ASCII letters behind a mark. A
label that has the mark already must stand for a text that mapping leaves as it is.
-/
namespace ScriptSandbox.Url.Idna

def labelMark : List Char := "xn--".toList

/-- The ASCII characters that no domain name may hold, beside the controls. -/
def isDenied (c : Char) : Bool :=
  c.toNat ≤ 0x20 || c.toNat = 0x7F || "%#/:<>?@[\\]^|".toList.contains c

def longestEncoded : Nat := 2000

def longestDecoded : Nat := 1000

/-- The text of a marked label, behind its mark: it has other than ASCII characters, and mapping
leaves it as it is. -/
def readMarked? (rest : List Char) : Option (List Char) :=
  if longestEncoded < rest.length || !rest.all Ascii.holds then none
  else match Punycode.decode? rest with
    | none => none
    | some text =>
      if text.all Ascii.holds || !text.all isKept || compose text != text then none else some text

def labelText? (label : List Char) : Option (List Char) :=
  match Search.after? labelMark label with
  | some rest => readMarked? rest
  | none => some label

def writeLabel? (text : List Char) : Option (List Char) :=
  if text.all Ascii.holds then some text
  else if longestDecoded < text.length then none
  else some (labelMark ++ Punycode.encode text)

def joined (separator : Char) : List (List Char) → List Char
  | [] => []
  | [text] => text
  | text :: rest => text ++ separator :: joined separator rest

/-- A domain name in ASCII, none when it is not one. -/
def toAscii (name : List Char) : Option (List Char) := do
  let mapped := compose (← name.mapM map?).flatten
  if mapped.any isDenied then none
  let labels ← (Search.splitAt (· == '.') mapped).mapM labelText?
  -- One label that is written from right to left puts all labels under the rules of direction.
  let backward := labels.any (·.any fun c => (direction c).isBackward)
  if !labels.all marksFit || (backward && !labels.all isDirected) then none
  return joined '.' (← labels.mapM writeLabel?)

end ScriptSandbox.Url.Idna
