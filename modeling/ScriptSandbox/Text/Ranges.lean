import ScriptSandbox.Text.Search

/-!
# Compact tables of code points

A table is one line of text. Its items are separated by blanks, and each is a range of code points:
the distance from the end of the range before it, and after a hyphen the number of further code
points in it, both in base 36.
-/
namespace ScriptSandbox.Ranges

def digit (c : Char) : Nat := if c ≤ '9' then c.toNat - 48 else c.toNat - 87

def base36 (digits : List Char) : Nat := digits.foldl (fun value c => 36 * value + digit c) 0

/-- The numbers of a list that is separated by points. -/
def numbers (text : List Char) : List Nat := (Search.splitAt (· == '.') text).map base36

def words (table : String) : List (List Char) := Search.splitAt (· == ' ') table.toList

/-- One item, read after the range that ended at `last`. -/
def item (last : Nat) (text : List Char) : Nat × Nat :=
  let distance := text.takeWhile (· != '-')
  let more := (text.dropWhile (· != '-')).drop 1
  let low := last + base36 distance
  (low, low + base36 more)

/-- The ranges of a table, in increasing order. -/
def ofTable (table : String) : Array (Nat × Nat) :=
  ((words table).foldl (fun (ranges, last) word =>
    let range := item last word
    (ranges.push range, range.2)) ((#[] : Array (Nat × Nat)), 0)).1

def holds (ranges : Array (Nat × Nat)) (code : Nat) : Bool :=
  ranges.any fun (low, high) => low ≤ code && code ≤ high

end ScriptSandbox.Ranges
