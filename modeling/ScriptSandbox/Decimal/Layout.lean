import ScriptSandbox.Decimal.Shortest

/-!
# Layouts of decimal numbers

A layout says how the digits of a number are written: which leading exponents are written
positionally, whether an integral number keeps a point, and how zero, infinity and the undefined
number are spelled. The exponent mark is `e` and its sign is always written.
-/
namespace ScriptSandbox.Decimal

structure Layout where
  /-- The least leading exponent written positionally. -/
  leastPositional : Int
  /-- The greatest leading exponent written positionally. -/
  greatestPositional : Int
  /-- Whether an integral number written positionally ends in `.0`. -/
  keepsPoint : Bool
  /-- Whether negative zero shows its sign. -/
  signsZero : Bool
  nanText : String
  infinityText : String

/-- Numbers in JSON texts. -/
def Layout.json : Layout := ⟨-5, 15, true, true, "null", "null"⟩

/-- Numbers as scripts see them. -/
def Layout.script : Layout := ⟨-6, 20, false, false, "NaN", "Infinity"⟩

/-- Results that are no numbers, in messages. -/
def Layout.message : Layout := ⟨-400, 400, false, true, "NaN", "inf"⟩

def positional (point : Bool) (digits : List Char) (leading : Int) : List Char :=
  if leading < 0 then '0' :: '.' :: (List.replicate (-leading - 1).toNat '0' ++ digits)
  else
    let whole := leading.toNat + 1
    if digits.length ≤ whole then
      digits ++ List.replicate (whole - digits.length) '0' ++ (if point then ['.', '0'] else [])
    else digits.take whole ++ '.' :: digits.drop whole

def scientific (digits : List Char) (leading : Int) : List Char :=
  let mantissa := match digits with
    | [] => []
    | [d] => [d]
    | d :: more => d :: '.' :: more
  mantissa ++ 'e' :: (if leading < 0 then '-' else '+') :: (Nat.repr leading.natAbs).toList

def Layout.render (layout : Layout) : Binary64 → List Char
  | .nan => layout.nanText.toList
  | .infinite negative => (if negative then ['-'] else []) ++ layout.infinityText.toList
  | .finite negative units =>
    if units = 0 then
      (if negative && layout.signsZero then ['-'] else []) ++ positional layout.keepsPoint ['0'] 0
    else
      let decimal := shortest units
      let digits := (Nat.repr decimal.digits).toList
      let leading := decimal.exponent + digits.length - 1
      (if negative then ['-'] else []) ++
        if layout.leastPositional ≤ leading ∧ leading ≤ layout.greatestPositional
        then positional layout.keepsPoint digits leading
        else scientific digits leading

def Layout.text (layout : Layout) (x : Binary64) : String := String.ofList (layout.render x)

end ScriptSandbox.Decimal
