import ScriptSandbox.Text.Bytes

/-!
# Linear memory

The memory of a guest is a number of pages of 64 KiB. Spans are given by a start and a length; an
access to a span that does not lie within the memory fails, and an empty span at its very end is
fine.
-/
namespace ScriptSandbox.Guest

/-- A guest's memory. Only the bytes below `size` can be reached. -/
structure Memory where
  size : Nat
  byteAt : Nat → UInt8

namespace Memory

def pageSize : Nat := 65536

/-- A memory may have this many pages. -/
def pageBound : Nat := 65536

def ofPages (pages : Nat) : Memory := ⟨pages * pageSize, fun _ => 0⟩

def pages (memory : Memory) : Nat := memory.size / pageSize

/-- Whether a span lies within the memory. -/
def holds (memory : Memory) (start length : Nat) : Bool := start + length ≤ memory.size

def slice (memory : Memory) (start length : Nat) : Bytes :=
  (List.range' start length).map memory.byteAt

/-- The bytes of a span within the memory. -/
def read? (memory : Memory) (start length : Nat) : Option Bytes :=
  if memory.holds start length then some (memory.slice start length) else none

/-- Puts bytes into the memory from a place on. -/
def patch (memory : Memory) (start : Nat) (bytes : Bytes) : Memory :=
  let data := bytes.toArray
  { memory with byteAt := fun place =>
      if start ≤ place then (data[place - start]?).getD (memory.byteAt place) else memory.byteAt place }

/-- Writes bytes to a span within the memory. -/
def write? (memory : Memory) (start : Nat) (bytes : Bytes) : Option Memory :=
  if memory.holds start bytes.length then some (memory.patch start bytes) else none

/-- Copies a span to another place; the two may overlap. -/
def copy? (memory : Memory) (target source length : Nat) : Option Memory :=
  if memory.holds target length ∧ memory.holds source length then
    some { memory with byteAt := fun place =>
      if target ≤ place ∧ place < target + length then memory.byteAt (source + (place - target))
      else memory.byteAt place }
  else none

def fill? (memory : Memory) (target : Nat) (byte : UInt8) (length : Nat) : Option Memory :=
  if memory.holds target length then
    some { memory with byteAt := fun place =>
      if target ≤ place ∧ place < target + length then byte else memory.byteAt place }
  else none

structure Limits where
  /-- The number of pages that the guest itself sets. -/
  maxPages : Option Nat
  /-- The number of bytes that the engine allows. -/
  maxBytes : Nat

/-- Whether a memory may have a number of pages. -/
def Limits.allows (limits : Limits) (pages : Nat) : Bool :=
  pages ≤ pageBound && pages * pageSize ≤ limits.maxBytes &&
    (match limits.maxPages with | some most => pages ≤ most | none => true)

/-- Adds pages filled with zeros, if they are allowed. -/
def grow? (memory : Memory) (limits : Limits) (pages : Nat) : Option Memory :=
  if limits.allows (memory.pages + pages) then
    some { size := memory.size + pages * pageSize,
           byteAt := fun place => if place < memory.size then memory.byteAt place else 0 }
  else none

end Memory

end ScriptSandbox.Guest
