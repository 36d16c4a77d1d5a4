import ScriptSandbox.Decimal.Binary64

/-!
# The shortest decimal that reads back

A finite double other than zero has an interval of real numbers that round to it. `shortest` looks
at the decimals of one digit, of two digits and so on, and takes the first length at which one of
them lies in the interval; of two such it takes the nearer.
-/
namespace ScriptSandbox.Decimal

/-- The decimal `digits` · 10^`exponent`. -/
structure Digits where
  digits : Nat
  exponent : Int
  deriving DecidableEq, Repr

/-- The reals that round to a double, in quarters of a unit. -/
structure Interval where
  low : Nat
  high : Nat
  /-- Whether the two ends belong to it. -/
  closed : Bool

/-- The interval of a number of units. Below a power of two the doubles lie twice as close. -/
def interval (units : Nat) : Interval :=
  let space := Binary64.spacing units
  let below := if units = Nat.pow 2 units.log2 ∧ 1 < space then space else 2 * space
  { low := 4 * units - below, high := 4 * units + 2 * space, closed := units / space % 2 = 0 }

/-- A decimal as a quotient of quarters of a unit. -/
def Digits.quarters (d : Digits) : Nat × Nat :=
  if 0 ≤ d.exponent then (d.digits * Nat.pow 10 d.exponent.toNat * (4 * Binary64.one), 1)
  else (d.digits * (4 * Binary64.one), Nat.pow 10 (-d.exponent).toNat)

def Interval.holds (i : Interval) (d : Digits) : Bool :=
  let (numerator, denominator) := d.quarters
  let low := i.low * denominator
  let high := i.high * denominator
  (low < numerator && numerator < high) || (i.closed && (numerator = low || numerator = high))

/-- The distance of a decimal from a number of units, over the decimal's own denominator. -/
def Digits.distance (units : Nat) (d : Digits) : Nat :=
  let (numerator, denominator) := d.quarters
  let exact := 4 * units * denominator
  (numerator - exact) + (exact - numerator)

def leadingExponent (units : Nat) : Int :=
  ((Nat.repr (units * Nat.pow 10 340 / Binary64.one)).length : Int) - 341

/-- Of two decimals one that lies in an interval, if there is one: of two such the nearer to a number
of units, and of two equally near the first if it is even. -/
def Interval.choose? (range : Interval) (units : Nat) (first second : Digits) : Option Digits :=
  match range.holds first, range.holds second with
  | true, true =>
    let d := first.distance units
    let e := second.distance units
    if d < e then some first else if e < d then some second
    else if first.digits % 2 = 0 then some first else some second
  | true, false => some first
  | false, true => some second
  | false, false => none

/-- The decimal of a given length that reads back, if there is one: of the two neighbours of the
number on that grid, the nearer one in the interval. -/
def ofLength? (units length : Nat) : Option Digits :=
  let exponent := leadingExponent units - length + 1
  let below :=
    if 0 ≤ exponent then units / (Binary64.one * Nat.pow 10 exponent.toNat)
    else units * Nat.pow 10 (-exponent).toNat / Binary64.one
  (interval units).choose? units ⟨below, exponent⟩ ⟨below + 1, exponent⟩

/-- The same decimal without zeros at the end of its digits; seventeen of them at most. -/
def Digits.stripped (d : Digits) : Nat → Digits
  | 0 => d
  | fuel + 1 =>
    if d.digits ≠ 0 ∧ d.digits % 10 = 0 then
      Digits.stripped ⟨d.digits / 10, d.exponent + 1⟩ fuel
    else d

/-- The shortest decimal that reads back as a number of units. -/
def shortest (units : Nat) : Digits :=
  -- Seventeen digits are enough for every double.
  (((List.range 17).findSome? fun n => ofLength? units (n + 1)).map (·.stripped 17)).getD ⟨0, 0⟩

end ScriptSandbox.Decimal
