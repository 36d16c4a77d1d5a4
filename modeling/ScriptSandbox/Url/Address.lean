import ScriptSandbox.Url.Fault
import ScriptSandbox.Text.Ascii
import ScriptSandbox.Text.Search

/-!
# Addresses in hosts

A host whose last label is a number is an IPv4 address, whose parts may be decimal, octal or
hexadecimal and whose last part fills the bytes that are left. A host between brackets is an IPv6
address; it is written in its shortest form, the longest run of zero pieces left out.
-/
namespace ScriptSandbox.Url

namespace Ipv4

/-- The number of some digits of a base; none when there is a character that is no digit. -/
def digits? (base : Nat) (text : List Char) : Option Nat :=
  text.foldlM (fun value c =>
    match Bytes.hexValue? c with
    | some d => if d < base then some (base * value + d) else none
    | none => none) 0

/-- A part of an address: hexadecimal after `0x`, octal after `0`, and decimal otherwise. -/
def number? (text : List Char) : Option Nat :=
  match text with
  | [] => none
  | '0' :: 'x' :: rest => digits? 16 rest
  | '0' :: 'X' :: rest => digits? 16 rest
  | '0' :: c :: rest => digits? 8 (c :: rest)
  | text => digits? 10 text

/-- The labels of a host; an empty one at the end is left out. -/
def labels (host : List Char) : List (List Char) :=
  let parts := Search.splitAt (· = '.') host
  if 1 < parts.length ∧ parts.getLast? = some [] then parts.dropLast else parts

/-- Whether the last label of a host is a number, so that the host can only be an address. -/
def endsInNumber (host : List Char) : Bool :=
  match (labels host).getLast? with
  | none => false
  | some last => (!last.isEmpty && last.all Ascii.isDigit) || (number? last).isSome

/-- The address of some parts: the last fills the bytes that the others leave. -/
def assemble (parts : List Nat) : Option Nat :=
  match parts.reverse with
  | [] => none
  | last :: before =>
    if 4 < parts.length ∨ before.any (255 < ·) ∨ Nat.pow 256 (5 - parts.length) ≤ last then none
    else
      let leading := before.reverse.zipIdx.foldl (fun sum (n, i) => sum + n * Nat.pow 256 (3 - i)) 0
      some (leading + last)

def parse (host : List Char) : Except Fault Nat :=
  match (labels host).mapM number? with
  | none => .error .invalidIpv4
  | some parts =>
    match assemble parts with
    | some address => .ok address
    | none => .error .invalidIpv4

/-- An address as four decimal numbers. -/
def render (address : Nat) : List Char :=
  (String.intercalate "." ([3, 2, 1, 0].map fun i => Nat.repr (address / Nat.pow 256 i % 256))).toList

end Ipv4

namespace Ipv6

/-- A piece of one to four hexadecimal digits. -/
def piece? (text : List Char) : Option Nat :=
  if text.isEmpty ∨ 4 < text.length then none else Ipv4.digits? 16 text

/-- A decimal number below 256 without superfluous zeros. -/
def octet? (text : List Char) : Option Nat :=
  match text with
  | [] => none
  | '0' :: _ :: _ => none
  | text => if 3 < text.length then none else (Ipv4.digits? 10 text).filter (· < 256)

def embedded? (text : List Char) : Option (List Nat) :=
  match (Search.splitAt (· = '.') text).mapM octet? with
  | some [a, b, c, d] => some [256 * a + b, 256 * c + d]
  | _ => none

/-- Pieces between colons, of which the last may be an IPv4 address. -/
def pieces? (text : List Char) : Option (List Nat) :=
  if text.isEmpty then some []
  else
    let parts := Search.splitAt (· = ':') text
    match parts.reverse with
    | [] => some []
    | last :: before =>
      match before.reverse.mapM piece?, (piece? last).map ([·]) <|> embedded? last with
      | some front, some back => some (front ++ back)
      | _, _ => none

def parse (text : List Char) : Except Fault (List Nat) :=
  let pieces : Option (List Nat) :=
    match Search.cut? [':', ':'] text with
    | none => (pieces? text).filter (·.length = 8)
    | some (front, back) =>
      if front.contains '.' then none
      else match pieces? front, pieces? back with
        | some front, some back =>
          -- The double colon stands for one zero piece at least.
          if front.length + back.length < 8 then
            some (front ++ List.replicate (8 - front.length - back.length) 0 ++ back)
          else none
        | _, _ => none
  match pieces with
  | some pieces => .ok pieces
  | none => .error .invalidIpv6

/-- The first longest run of at least two zero pieces: its start and its length. -/
def longestRun (pieces : List Nat) : Option (Nat × Nat) :=
  let runs := (List.range pieces.length).map fun i => (i, ((pieces.drop i).takeWhile (· = 0)).length)
  runs.foldl (fun best (i, n) =>
    if n < 2 then best
    else match best with
      | some (_, m) => if m < n then some (i, n) else best
      | none => some (i, n)) none

def join (pieces : List Nat) : List Char :=
  (String.intercalate ":" (pieces.map fun n => String.ofList (Nat.toDigits 16 n))).toList

/-- An address in its shortest form. -/
def render (pieces : List Nat) : List Char :=
  match longestRun pieces with
  | none => join pieces
  | some (start, length) => join (pieces.take start) ++ ':' :: ':' :: join (pieces.drop (start + length))

end Ipv6

end ScriptSandbox.Url
