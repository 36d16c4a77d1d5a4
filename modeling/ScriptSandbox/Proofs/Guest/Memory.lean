import ScriptSandbox.Guest.Memory

/-!
# Accesses to linear memory

An access succeeds exactly when its span lies within the memory. A write puts its bytes there and
leaves all others as they are, and what lies beyond the end of a memory does not matter to either.
-/
namespace ScriptSandbox.Guest.Memory

variable {memory : Memory} {start length : Nat} {bytes : Bytes}

@[simp] theorem length_slice (memory : Memory) (start length : Nat) :
    (memory.slice start length).length = length := by
  simp [slice]

theorem read?_eq_some_iff :
    memory.read? start length = some bytes ↔
      start + length ≤ memory.size ∧ bytes = memory.slice start length := by
  by_cases inside : start + length ≤ memory.size <;> simp [read?, holds, inside, eq_comm]

theorem read?_eq_none_iff : memory.read? start length = none ↔ memory.size < start + length := by
  simp [read?, holds]

theorem write?_eq_some_iff {after : Memory} :
    memory.write? start bytes = some after ↔
      start + bytes.length ≤ memory.size ∧ after = memory.patch start bytes := by
  by_cases inside : start + bytes.length ≤ memory.size <;> simp [write?, holds, inside, eq_comm]

theorem write?_eq_none_iff :
    memory.write? start bytes = none ↔ memory.size < start + bytes.length := by
  simp [write?, holds]

theorem write?_nil (inside : start ≤ memory.size) : memory.write? start [] = some memory := by
  simp [write?, holds, patch, inside]

/-- Of a span that can be read, every beginning can be read. -/
theorem read?_take {less : Nat} (read : memory.read? start length = some bytes)
    (within : less ≤ length) : memory.read? start less = some (bytes.take less) := by
  obtain ⟨inside, rfl⟩ := read?_eq_some_iff.mp read
  apply read?_eq_some_iff.mpr
  constructor
  · omega
  · apply List.ext_getElem
    · simp [within]
    · intro index _ _
      simp [slice]

/-- A memory that starts with some bytes gives them back. -/
theorem read_start (starts : memory.byteAt = fun place => bytes.getD place 0)
    (fits : bytes.length ≤ memory.size) : memory.read? 0 bytes.length = some bytes := by
  apply read?_eq_some_iff.mpr
  constructor
  · omega
  · apply List.ext_getElem
    · exact (length_slice _ _ _).symm
    · intro place inside _
      simp [slice, starts, inside]

/-! ### What a write changes -/

@[simp] theorem size_patch (memory : Memory) (start : Nat) (bytes : Bytes) :
    (memory.patch start bytes).size = memory.size := rfl

theorem byteAt_patch (memory : Memory) (start : Nat) (bytes : Bytes) (place : Nat) :
    (memory.patch start bytes).byteAt place =
      if start ≤ place then (bytes[place - start]?).getD (memory.byteAt place)
      else memory.byteAt place := by
  simp [patch]

theorem byteAt_patch_outside {place : Nat}
    (outside : place < start ∨ start + bytes.length ≤ place) :
    (memory.patch start bytes).byteAt place = memory.byteAt place := by
  rw [byteAt_patch]
  split
  next behind =>
    have beyond : bytes[place - start]? = none := by
      rw [List.getElem?_eq_none_iff]
      omega
    rw [beyond, Option.getD_none]
  · rfl

theorem slice_patch (memory : Memory) (start : Nat) (bytes : Bytes) :
    (memory.patch start bytes).slice start bytes.length = bytes := by
  apply List.ext_getElem
  · exact length_slice _ _ _
  · intro index _ inside
    simp [slice, byteAt_patch, inside]

/-! ### Memories that no access tells apart -/

/-- Two memories of one size, with the same bytes up to their end. -/
structure Agree (left right : Memory) : Prop where
  size : left.size = right.size
  bytes : ∀ place, place < left.size → left.byteAt place = right.byteAt place

namespace Agree

variable {left right : Memory}

theorem slice (agree : Agree left right) (inside : start + length ≤ left.size) :
    left.slice start length = right.slice start length := by
  apply List.ext_getElem
  · simp
  · intro index within _
    rw [length_slice] at within
    simpa [Memory.slice] using agree.bytes (start + index) (by omega)

theorem read? (agree : Agree left right) (start length : Nat) :
    left.read? start length = right.read? start length := by
  by_cases inside : start + length ≤ left.size
  · simp [Memory.read?, holds, ← agree.size, inside, agree.slice inside]
  · simp [Memory.read?, holds, ← agree.size, inside]

theorem patch (agree : Agree left right) (start : Nat) (bytes : Bytes) :
    Agree (left.patch start bytes) (right.patch start bytes) := by
  refine ⟨agree.size, fun place inside => ?_⟩
  rw [byteAt_patch, byteAt_patch, agree.bytes place inside]

theorem write? (agree : Agree left right) (start : Nat) (bytes : Bytes) :
    (left.write? start bytes = none ∧ right.write? start bytes = none) ∨
      ∃ leftAfter rightAfter, left.write? start bytes = some leftAfter ∧
        right.write? start bytes = some rightAfter ∧ Agree leftAfter rightAfter := by
  by_cases inside : start + bytes.length ≤ left.size
  · right
    refine ⟨_, _, write?_eq_some_iff.mpr ⟨inside, rfl⟩, ?_, agree.patch start bytes⟩
    exact write?_eq_some_iff.mpr ⟨agree.size ▸ inside, rfl⟩
  · left
    rw [write?_eq_none_iff, write?_eq_none_iff, ← agree.size]
    omega

end Agree

end ScriptSandbox.Guest.Memory
