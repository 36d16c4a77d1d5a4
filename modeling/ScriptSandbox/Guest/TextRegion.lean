import ScriptSandbox.Text.Utf8

/-!
# Text regions

A guest keeps texts for its host in regions of fixed capacity. A text that does not fit is cut
between two characters. Bytes of an earlier text stay behind a shorter one, but do not belong to the
content.
-/
namespace ScriptSandbox.Guest

/-- A region of memory for one text. -/
structure TextRegion where
  /-- All bytes of the region; their number is its capacity. -/
  bytes : Bytes
  /-- How many of them belong to the content. -/
  used : Nat
  deriving DecidableEq, Repr

namespace TextRegion

def ofCapacity (capacity : Nat) : TextRegion := ⟨List.replicate capacity 0, 0⟩

def capacity (region : TextRegion) : Nat := region.bytes.length

def content (region : TextRegion) : Bytes := region.bytes.take region.used

/-- The last place up to a given one where a text may be cut. -/
def lastBoundary (text : Bytes) : Nat → Nat
  | 0 => 0
  | place + 1 => if Utf8.isBoundary text (place + 1) then place + 1 else lastBoundary text place

/-- The part of a text that fits a capacity. -/
def fitting (capacity : Nat) (text : Bytes) : Bytes :=
  text.take (lastBoundary text (min text.length capacity))

def clear (region : TextRegion) : TextRegion := { region with used := 0 }

/-- Replaces the content by what fits of a text. -/
def set (region : TextRegion) (text : List Char) : TextRegion :=
  let part := fitting region.capacity (Utf8.encode text)
  ⟨part ++ region.bytes.drop part.length, part.length⟩

end TextRegion

end ScriptSandbox.Guest
