/-!
# Blank characters

The characters with the Unicode property `White_Space`, and texts without the blanks at their ends.
-/
namespace ScriptSandbox.Blank

/-- The ranges of `White_Space`. -/
def ranges : List (Nat × Nat) :=
  [(0x09, 0x0D), (0x20, 0x20), (0x85, 0x85), (0xA0, 0xA0), (0x1680, 0x1680), (0x2000, 0x200A),
   (0x2028, 0x2029), (0x202F, 0x202F), (0x205F, 0x205F), (0x3000, 0x3000)]

def isBlank (c : Char) : Bool := ranges.any fun (low, high) => low ≤ c.toNat && c.toNat ≤ high

/-- A text without the characters of a class at its start. -/
def dropStart (cut : Char → Bool) (text : List Char) : List Char := text.dropWhile cut

/-- A text without the characters of a class at its end. -/
def dropEnd (cut : Char → Bool) (text : List Char) : List Char := (text.reverse.dropWhile cut).reverse

def trim (text : String) : String := String.ofList (dropEnd isBlank (dropStart isBlank text.toList))

end ScriptSandbox.Blank
