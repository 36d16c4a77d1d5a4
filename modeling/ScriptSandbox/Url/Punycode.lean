import ScriptSandbox.Text.Ascii

/-!
# Labels in ASCII letters

A label with other characters is written with letters, digits and hyphens only: first its ASCII
characters, then the others as one number each, in the order of their code points, which says where
the character is inserted and which it is. The digits of a number come lowest first; how far they
count before the last one adapts to the numbers before.
-/
namespace ScriptSandbox.Url.Punycode

/-- The value of a digit: the letters count from 0 and the digits from 26. -/
def digitValue? (c : Char) : Option Nat :=
  if 'a' ≤ c ∧ c ≤ 'z' then some (c.toNat - 97)
  else if 'A' ≤ c ∧ c ≤ 'Z' then some (c.toNat - 65)
  else if '0' ≤ c ∧ c ≤ '9' then some (c.toNat - 22)
  else none

/-- The digit of a value below 36. -/
def digit (value : Nat) : Char := Char.ofNat (if value < 26 then value + 97 else value + 22)

/-- The least value at a place that is not the last one of its number. Places count in steps of
36. -/
def threshold (place bias : Nat) : Nat := max 1 (min 26 (place - bias))

theorem threshold_pos (place bias : Nat) : 1 ≤ threshold place bias := by
  unfold threshold; omega

/-- Brings a difference down to a bias. -/
def settle (difference steps : Nat) : Nat :=
  if 455 < difference then settle (difference / 35) (steps + 36)
  else steps + 36 * difference / (difference + 38)
termination_by difference
decreasing_by exact Nat.div_lt_self (by omega) (by omega)

/-- The bias after a number, from how many characters there are then. -/
def adapt (difference count : Nat) (isFirst : Bool) : Nat :=
  let difference := if isFirst then difference / 700 else difference / 2
  settle (difference + difference / count) 0

def firstBias : Nat := 72

/-- The first code point that is not written as itself. -/
def firstCode : Nat := 128

/-! ### Reading -/

structure Reading where
  text : List Char
  code : Nat := firstCode
  /-- Where the next character is inserted, counted on through all code points. -/
  index : Nat := 0
  bias : Nat := firstBias
  /-- What the open number has added to the index, and the weight and place of its next digit. -/
  sum : Nat := 0
  weight : Nat := 1
  position : Nat := 36

/-- Inserts the character that a finished number stands for. -/
def Reading.insert (state : Reading) (sum : Nat) : Option Reading :=
  let count := state.text.length + 1
  let index := state.index + sum
  let code := state.code + index / count
  if code.isValidChar then
    some {
      text := state.text.insertIdx (index % count) (Char.ofNat code)
      code := code
      index := index % count + 1
      bias := adapt sum count (state.index = 0) }
  else none

def Reading.step (state : Reading) (c : Char) : Option Reading :=
  match digitValue? c with
  | none => none
  | some value =>
    let sum := state.sum + value * state.weight
    let bound := threshold state.position state.bias
    if value < bound then state.insert sum
    else some { state with sum, weight := state.weight * (36 - bound), position := state.position + 36 }

/-- The parts of a label before and after its last hyphen. A hyphen at the very start separates
nothing. -/
def splitLast (label : List Char) : List Char × List Char :=
  let reversed := label.reverse
  match reversed.dropWhile (· != '-') with
  | _ :: plain@(_ :: _) => (plain.reverse, (reversed.takeWhile (· != '-')).reverse)
  | _ => ([], label)

/-- The text that a label stands for. -/
def decode? (label : List Char) : Option (List Char) :=
  let (plain, numbers) := splitLast label
  match numbers.foldlM Reading.step { text := plain } with
  -- A weight other than one belongs to a number that was not finished.
  | some state => if state.weight = 1 then some state.text else none
  | none => none

/-! ### Writing -/

def digitsOf (bias position value : Nat) : List Char :=
  let bound := threshold position bias
  if value < bound then [digit value]
  else digit (bound + (value - bound) % (36 - bound)) ::
    digitsOf bias (position + 36) ((value - bound) / (36 - bound))
termination_by value
decreasing_by
  have := threshold_pos position bias
  exact Nat.lt_of_le_of_lt (Nat.div_le_self _ _) (by omega)

structure Writing where
  label : List Char
  /-- How many characters of the text are written. -/
  count : Nat
  code : Nat := firstCode
  bias : Nat := firstBias
  /-- The next number. -/
  difference : Nat := 0
  isFirst : Bool := true

/-- Passes one character of the text on the way to those with a code point. -/
def Writing.pass (wanted : Nat) (state : Writing) (c : Char) : Writing :=
  if c.toNat < wanted then { state with difference := state.difference + 1 }
  else if c.toNat = wanted then
    { state with
      label := state.label ++ digitsOf state.bias 36 state.difference
      count := state.count + 1
      bias := adapt state.difference (state.count + 1) state.isFirst
      difference := 0
      isFirst := false }
  else state

def Writing.write (text : List Char) (state : Writing) (wanted : Nat) : Writing :=
  let start := { state with difference := state.difference + (wanted - state.code) * (state.count + 1) }
  let passed := text.foldl (Writing.pass wanted) start
  { passed with difference := passed.difference + 1, code := wanted + 1 }

def encode (text : List Char) : List Char :=
  let plain := text.filter Ascii.holds
  let others := (text.filter (!Ascii.holds ·)).map Char.toNat
  let codes := (others.mergeSort fun a b => decide (a ≤ b)).eraseDups
  let start : Writing := { label := if plain.isEmpty then [] else plain ++ ['-'], count := plain.length }
  (codes.foldl (Writing.write text) start).label

end ScriptSandbox.Url.Punycode
