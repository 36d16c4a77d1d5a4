/-!
# Double-precision numbers

A finite double is a sign and a whole number of *units*, the smallest positive double 2⁻¹⁰⁷⁴. Every
operation is worked out exactly and then rounded by `nearest`: to the closest double, of two equally
close ones to the one with the even significand.
-/
namespace ScriptSandbox

inductive Binary64 where
  | nan
  | infinite (negative : Bool)
  /-- The number ± `units` · 2⁻¹⁰⁷⁴. -/
  | finite (negative : Bool) (units : Nat)
  deriving DecidableEq, Repr, Inhabited

namespace Binary64

def one : Nat := Nat.pow 2 1074

/-- The units of the least power of two that is too large. -/
def tooLarge : Nat := Nat.pow 2 2098

/-- The distance, in units, from a number to the next double above it. -/
def spacing (units : Nat) : Nat := Nat.pow 2 (units.log2 - 52)

/-- The double nearest to a quotient, both counted in units; a tie goes to the even significand. -/
def nearest (numerator denominator : Nat) : Nat :=
  let space := spacing (numerator / denominator)
  let cell := denominator * space
  let significand := numerator / cell
  let rest := numerator % cell
  let rounded :=
    if 2 * rest < cell then significand
    else if cell < 2 * rest then significand + 1
    -- A tie: an odd significand goes up to the even one.
    else significand + significand % 2
  rounded * space

/-- The double nearest to ± a quotient of units; infinite from 2¹⁰²⁴ on. -/
def ofUnits (negative : Bool) (numerator denominator : Nat) : Binary64 :=
  let units := nearest numerator denominator
  if units < tooLarge then finite negative units else infinite negative

def zero : Binary64 := finite false 0

def ofInt (value : Int) : Binary64 := ofUnits (value < 0) (value.natAbs * one) 1

/-- The double nearest to ± `digits` · 10^`exponent`. -/
def ofDecimal (negative : Bool) (digits : Nat) (exponent : Int) : Binary64 :=
  let length : Int := (Nat.repr digits).length
  if digits = 0 then finite negative 0
  -- Far out of range, the powers of ten need not be computed.
  else if 400 < exponent + length then infinite negative
  else if exponent + length < -400 then finite negative 0
  else if 0 ≤ exponent then ofUnits negative (digits * Nat.pow 10 exponent.toNat * one) 1
  else ofUnits negative (digits * one) (Nat.pow 10 (-exponent).toNat)

def neg : Binary64 → Binary64
  | nan => nan
  | infinite negative => infinite !negative
  | finite negative units => finite (!negative) units

def signed (negative : Bool) (units : Nat) : Int := if negative then -units else units

/-- The sum. A sum of zero is negative only when both terms are. -/
def add : Binary64 → Binary64 → Binary64
  | finite n u, finite m v =>
    let sum := signed n u + signed m v
    if sum = 0 then finite (n && m) 0 else ofUnits (sum < 0) sum.natAbs 1
  | infinite n, infinite m => if n = m then infinite n else nan
  | infinite n, finite .. => infinite n
  | finite .., infinite m => infinite m
  | nan, _ => nan
  | _, nan => nan

def sub (x y : Binary64) : Binary64 := add x y.neg

def mul : Binary64 → Binary64 → Binary64
  | finite n u, finite m v => ofUnits (n != m) (u * v) one
  | infinite n, infinite m => infinite (n != m)
  | infinite n, finite m v => if v = 0 then nan else infinite (n != m)
  | finite n u, infinite m => if u = 0 then nan else infinite (n != m)
  | nan, _ => nan
  | _, nan => nan

/-- The quotient. A non-zero number over zero is infinite. -/
def div : Binary64 → Binary64 → Binary64
  | finite n u, finite m v =>
    if v = 0 then if u = 0 then nan else infinite (n != m) else ofUnits (n != m) (u * one) v
  | infinite _, infinite _ => nan
  | infinite n, finite m _ => infinite (n != m)
  | finite n _, infinite m => finite (n != m) 0
  | nan, _ => nan
  | _, nan => nan

def isZero : Binary64 → Bool
  | finite _ units => units = 0
  | _ => false

def toInt? : Binary64 → Option Int
  | finite negative units => if units % one = 0 then some (signed negative (units / one)) else none
  | _ => none

/-- An integral power: the exact power, rounded. -/
def powInt (x : Binary64) (exponent : Int) : Binary64 :=
  match x with
  | nan => if exponent = 0 then ofInt 1 else nan
  | infinite negative =>
    if exponent = 0 then ofInt 1
    else if 0 < exponent then infinite (negative && exponent % 2 = 1)
    else finite (negative && exponent % 2 = 1) 0
  | finite negative units =>
    let negative := negative && exponent % 2 = 1
    let size : Int := exponent * ((units.log2 : Int) - 1074)
    if exponent = 0 then ofInt 1
    else if units = 0 then if 0 < exponent then finite negative 0 else infinite negative
    else if 3000 < size + exponent.natAbs then infinite negative
    else if size + exponent.natAbs < -3000 then finite negative 0
    else if 0 < exponent then
      ofUnits negative (Nat.pow units exponent.toNat * one) (Nat.pow one exponent.toNat)
    else ofUnits negative (Nat.pow one (-exponent).toNat * one) (Nat.pow units (-exponent).toNat)

end Binary64

end ScriptSandbox
