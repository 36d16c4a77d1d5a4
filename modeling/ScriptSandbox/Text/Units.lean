/-!
# UTF-16 code units

Script strings are lists of 16-bit units. A list of units is a text when its surrogates come in
pairs.
-/
namespace ScriptSandbox.Units

/-- A unit that opens a surrogate pair. -/
def isHigh (unit : UInt16) : Bool := 0xD800 ≤ unit && unit < 0xDC00

/-- A unit that closes a surrogate pair. -/
def isLow (unit : UInt16) : Bool := 0xDC00 ≤ unit && unit < 0xE000

def ofChar (c : Char) : List UInt16 :=
  let n := c.toNat
  if n < 0x10000 then [UInt16.ofNat n]
  else [UInt16.ofNat (0xD800 + (n - 0x10000) / 1024), UInt16.ofNat (0xDC00 + (n - 0x10000) % 1024)]

def ofText (text : List Char) : List UInt16 := text.flatMap ofChar

def pair (high low : UInt16) : Char :=
  Char.ofNat (0x10000 + (high.toNat - 0xD800) * 1024 + (low.toNat - 0xDC00))

/-- The pieces of a list of units: characters, and surrogates that stand alone. -/
def pieces (units : List UInt16) : List (UInt16 ⊕ Char) :=
  go units []
where
  go : List UInt16 → List (UInt16 ⊕ Char) → List (UInt16 ⊕ Char)
    | [], found => found.reverse
    | [unit], found => (single unit :: found).reverse
    | unit :: next :: rest, found =>
      if isHigh unit && isLow next then go rest (.inr (pair unit next) :: found)
      else go (next :: rest) (single unit :: found)
  single (unit : UInt16) : UInt16 ⊕ Char :=
    if isHigh unit || isLow unit then .inl unit else .inr (Char.ofNat unit.toNat)

/-- The text of a list of units, when every surrogate has its partner. -/
def toText? (units : List UInt16) : Option (List Char) :=
  (pieces units).mapM Sum.getRight?

end ScriptSandbox.Units
