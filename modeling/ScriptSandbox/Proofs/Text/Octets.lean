import Mathlib.Data.String.Basic
import ScriptSandbox.Proofs.Text.Utf8

/-!
# Texts and their bytes

A byte string that is read as a text is the writing of this text and of no other. Texts stand in the
order of their bytes.
-/
namespace ScriptSandbox.Utf8

/-! ### Byte strings that are read whole -/

/-- Reading from a state on completes these characters, breaks nothing and leaves nothing open. -/
def Reads (state : State) (bytes : Bytes) (text : List Char) : Prop :=
  run state bytes = (text.map some, .between)

theorem decode?_reads {bytes : Bytes} {text : List Char} (read : decode? bytes = some text) :
    Reads .between bytes text := by
  simp only [decode?, pieces_eq_run, Option.ite_none_right_eq_some, Option.some.injEq] at read
  obtain ⟨whole, found⟩ := read
  -- A character that is still open at the end would leave a broken piece.
  have last : (run .between bytes).2 = .between := by
    cases stopped : (run .between bytes).2 with
    | between => rfl
    | inside => simp [stopped, finish] at whole
  simp only [last, finish, List.append_nil, List.all_eq_true] at whole found
  refine Prod.ext ?_ last
  rw [← found]
  rw [List.map_filterMap_some_eq_filter_map_isSome, List.map_id, List.filter_eq_self.mpr whole]

theorem Reads.cons_iff {state : State} {byte : UInt8} {rest : Bytes} {text : List Char} :
    Reads state (byte :: rest) text ↔
      ∃ first later, text = first ++ later ∧ (step state byte).1 = first.map some ∧
        Reads (step state byte).2 rest later := by
  simp only [Reads, run, List.append_eq_map_iff, Prod.ext_iff]
  constructor
  · rintro ⟨⟨first, later, rfl, found, further⟩, last⟩
    exact ⟨first, later, rfl, found.symm, further.symm, last⟩
  · rintro ⟨first, later, rfl, found, further, last⟩
    exact ⟨⟨first, later, rfl, found.symm, further.symm⟩, last⟩

/-- Inside a character a byte has to come that may come there. -/
theorem Reads.inside {owed code : Nat} {low high : UInt8} {bytes : Bytes} {text : List Char}
    (reads : Reads (.inside owed low high code) bytes text) :
    ∃ byte rest, bytes = byte :: rest ∧ low ≤ byte ∧ byte ≤ high ∧
      if owed ≤ 1 then
        ∃ later, text = Char.ofNat (code * 64 + byte.toNat % 64) :: later ∧ Reads .between rest later
      else Reads (.inside (owed - 1) 0x80 0xBF (code * 64 + byte.toNat % 64)) rest text := by
  cases bytes with
  | nil => simp [Reads, run] at reads
  | cons byte rest =>
    obtain ⟨first, later, rfl, found, further⟩ := Reads.cons_iff.mp reads
    by_cases goesOn : low ≤ byte ∧ byte ≤ high
    · refine ⟨byte, rest, rfl, goesOn.1, goesOn.2, ?_⟩
      simp only [step, if_pos goesOn] at found further
      split at found
      next last =>
        rw [if_pos last] at further ⊢
        obtain ⟨c, rfl, same⟩ := List.map_eq_singleton_iff.mp found.symm
        obtain rfl := Option.some.inj same
        exact ⟨later, rfl, further⟩
      next more =>
        rw [if_neg more] at further ⊢
        obtain rfl := List.map_eq_nil_iff.mp found.symm
        exact further
    · -- A byte that breaks off the character leaves a broken piece.
      simp only [step, if_neg goesOn] at found
      cases first <;> simp at found

/-- A character that is written with one of the numbers of characters. -/
theorem utf8EncodeChar_ofNat {n : Nat} (valid : n.isValidChar) :
    String.utf8EncodeChar (Char.ofNat n) =
      if n ≤ 127 then [UInt8.ofNat n]
      else if n ≤ 2047 then [UInt8.ofNat (n / 64 % 32 + 192), UInt8.ofNat (n % 64 + 128)]
      else if n ≤ 65535 then
        [UInt8.ofNat (n / 4096 % 16 + 224), UInt8.ofNat (n / 64 % 64 + 128), UInt8.ofNat (n % 64 + 128)]
      else
        [UInt8.ofNat (n / 262144 % 8 + 240), UInt8.ofNat (n / 4096 % 64 + 128),
          UInt8.ofNat (n / 64 % 64 + 128), UInt8.ofNat (n % 64 + 128)] := by
  have value : (Char.ofNat n).val.toNat = n := by
    rw [Char.ofNat, dif_pos valid]
    rfl
  simp only [String.utf8EncodeChar, value]

/-- What the bytes mean that may start a character. -/
inductive Started (byte : UInt8) : List (Option Char) × State → Prop where
  | one (ascii : byte.toNat < 0x80) : Started byte ([some (Char.ofNat byte.toNat)], .between)
  | two (low : 0xC2 ≤ byte.toNat) (high : byte.toNat < 0xE0) :
      Started byte ([], .inside 1 0x80 0xBF (byte.toNat % 32))
  | three (low : 0xE0 ≤ byte.toNat) (high : byte.toNat < 0xF0) :
      Started byte ([], .inside 2 (if byte = 0xE0 then 0xA0 else 0x80)
        (if byte = 0xED then 0x9F else 0xBF) (byte.toNat % 16))
  | four (low : 0xF0 ≤ byte.toNat) (high : byte.toNat < 0xF5) :
      Started byte ([], .inside 3 (if byte = 0xF0 then 0x90 else 0x80)
        (if byte = 0xF4 then 0x8F else 0xBF) (byte.toNat % 8))
  | broken : Started byte ([none], .between)

theorem start_started (byte : UInt8) : Started byte (start byte) := by
  simp only [start, UInt8.lt_iff_toNat_lt, UInt8.reduceToNat]
  split
  next ascii => exact .one ascii
  next =>
    split
    next => exact .broken
    next low =>
      split
      next high => exact .two (Nat.le_of_not_lt low) high
      next low =>
        split
        next high => exact .three (Nat.le_of_not_lt low) high
        next low =>
          split
          next high => exact .four (Nat.le_of_not_lt low) high
          next => exact .broken

/-- A closer look at the second byte, after one of the first bytes, narrows its bounds. -/
private theorem bounds_of_look {byte lowAfter highAfter low high second : UInt8}
    (above : (if byte = lowAfter then low else 0x80) ≤ second)
    (below : second ≤ if byte = highAfter then high else 0xBF)
    (narrower : 0x80 ≤ low ∧ high ≤ 0xBF) :
    (0x80 ≤ second.toNat ∧ second.toNat ≤ 0xBF) ∧
      (byte.toNat = lowAfter.toNat → low.toNat ≤ second.toNat) ∧
      (byte.toNat = highAfter.toNat → second.toNat ≤ high.toNat) := by
  simp only [UInt8.le_iff_toNat_le, UInt8.toNat_inj, UInt8.reduceToNat] at above below narrower ⊢
  split at above <;> split at below <;> simp_all <;> omega

/-- A byte string that is read whole starts with the writing of its first character. -/
theorem Reads.first {byte : UInt8} {rest : Bytes} {text : List Char}
    (reads : Reads .between (byte :: rest) text) :
    ∃ c later tail, text = c :: later ∧ byte :: rest = String.utf8EncodeChar c ++ tail ∧
      Reads .between tail later := by
  obtain ⟨first, later, rfl, found, further⟩ := Reads.cons_iff.mp reads
  have started := start_started byte
  simp only [step] at found further
  generalize start byte = result at started found further
  cases started with
  | one ascii =>
    obtain ⟨c, rfl, same⟩ := List.map_eq_singleton_iff.mp found.symm
    obtain rfl := Option.some.inj same
    refine ⟨_, later, rest, rfl, ?_, further⟩
    rw [utf8EncodeChar_ofNat (.inl (by omega)), if_pos (by omega)]
    simp
  | two low high =>
    obtain rfl := List.map_eq_nil_iff.mp found.symm
    obtain ⟨second, tail, rfl, low₂, high₂, later, rfl, reads'⟩ := further.inside
    refine ⟨_, later, tail, rfl, ?_, reads'⟩
    simp only [UInt8.le_iff_toNat_le, UInt8.reduceToNat] at low₂ high₂
    rw [utf8EncodeChar_ofNat (.inl (by omega)), if_neg (by omega), if_pos (by omega)]
    simp only [List.cons_append, List.nil_append, List.cons.injEq, ← UInt8.toNat_inj,
      UInt8.toNat_ofNat', and_true]
    omega
  | three low high =>
    obtain rfl := List.map_eq_nil_iff.mp found.symm
    obtain ⟨second, tail, rfl, low₂, high₂, inside⟩ := further.inside
    obtain ⟨third, tail, rfl, low₃, high₃, later, rfl, reads'⟩ := inside.inside
    refine ⟨_, later, tail, rfl, ?_, reads'⟩
    -- The bounds on the second byte leave out numbers with a shorter writing and surrogates.
    have second_bounds := bounds_of_look low₂ high₂ (by decide)
    simp only [UInt8.le_iff_toNat_le, UInt8.reduceToNat] at second_bounds low₃ high₃
    have valid : ((byte.toNat % 16 * 64 + second.toNat % 64) * 64 +
        third.toNat % 64).isValidChar := by
      unfold Nat.isValidChar
      omega
    rw [utf8EncodeChar_ofNat valid, if_neg (by omega), if_neg (by omega), if_pos (by omega)]
    simp only [List.cons_append, List.nil_append, List.cons.injEq, ← UInt8.toNat_inj,
      UInt8.toNat_ofNat', and_true]
    omega
  | four low high =>
    obtain rfl := List.map_eq_nil_iff.mp found.symm
    obtain ⟨second, tail, rfl, low₂, high₂, inside⟩ := further.inside
    obtain ⟨third, tail, rfl, low₃, high₃, inside⟩ := inside.inside
    obtain ⟨fourth, tail, rfl, low₄, high₄, later, rfl, reads'⟩ := inside.inside
    refine ⟨_, later, tail, rfl, ?_, reads'⟩
    have second_bounds := bounds_of_look low₂ high₂ (by decide)
    simp only [UInt8.le_iff_toNat_le, UInt8.reduceToNat] at second_bounds low₃ high₃ low₄ high₄
    have valid : (((byte.toNat % 8 * 64 + second.toNat % 64) * 64 + third.toNat % 64) * 64 +
        fourth.toNat % 64).isValidChar := by
      unfold Nat.isValidChar
      omega
    rw [utf8EncodeChar_ofNat valid, if_neg (by omega), if_neg (by omega), if_neg (by omega)]
    simp only [List.cons_append, List.nil_append, List.cons.injEq, ← UInt8.toNat_inj,
      UInt8.toNat_ofNat', and_true]
    omega
  | broken => cases first <;> simp at found

theorem Reads.eq_encode {bytes : Bytes} {text : List Char} (reads : Reads .between bytes text) :
    bytes = encode text := by
  induction text generalizing bytes with
  | nil =>
    cases bytes with
    | nil => rfl
    | cons byte rest =>
      obtain ⟨c, later, _, more, _⟩ := reads.first
      cases more
  | cons c text ih =>
    cases bytes with
    | nil => simp [Reads, run] at reads
    | cons byte rest =>
      obtain ⟨c', later, tail, same, written, further⟩ := reads.first
      obtain ⟨rfl, rfl⟩ := List.cons.inj same
      rw [written, encode_cons, ih further]

/-- A byte string is read as a text exactly when it is the writing of the text. -/
theorem decode?_eq_some_iff {bytes : Bytes} {text : List Char} :
    decode? bytes = some text ↔ bytes = encode text := by
  constructor
  · exact fun read => (decode?_reads read).eq_encode
  · rintro rfl
    exact decode?_encode text

/-- A text is as long as its writing. -/
theorem utf8ByteSize_ofList (text : List Char) :
    (String.ofList text).utf8ByteSize = (encode text).length := by
  simp [encode, List.utf8Encode, String.utf8ByteSize]

/-! ### The order of texts -/

/-- How many bytes follow the first one of a character with this number. -/
def trailing (value : Nat) : Nat :=
  if value ≤ 0x7F then 0 else if value ≤ 0x7FF then 1 else if value ≤ 0xFFFF then 2 else 3

/-- What marks a first byte that so many bytes follow. -/
def leadMark : Nat → Nat
  | 0 => 0
  | 1 => 0xC0
  | 2 => 0xE0
  | _ => 0xF0

/-- The first byte of a character with this number. -/
def lead (value : Nat) : Nat := value / 64 ^ trailing value + leadMark (trailing value)

/-- The last bytes of a character with this number. -/
def trail (value : Nat) : Nat → Bytes
  | 0 => []
  | count + 1 => UInt8.ofNat (value / 64 ^ count % 64 + 0x80) :: trail value count

theorem lead_eq (value : Nat) :
    lead value = if value ≤ 0x7F then value else if value ≤ 0x7FF then value / 64 + 0xC0
      else if value ≤ 0xFFFF then value / 4096 + 0xE0 else value / 262144 + 0xF0 := by
  unfold lead trailing
  split_ifs <;> simp [leadMark]

theorem Written.lead_lt {value : Nat} {bytes : Bytes} (written : Written value bytes) :
    lead value < 256 := by
  rw [lead_eq]
  cases written <;> split_ifs <;> omega

/-- More bytes follow a larger first byte. -/
theorem lead_lt_of_trailing_ne {v w : Nat} (below : v < w) (other : trailing v ≠ trailing w) :
    lead v < lead w := by
  unfold trailing at other
  rw [lead_eq, lead_eq]
  split_ifs at other ⊢ <;> omega

theorem utf8EncodeChar_eq_lead (c : Char) :
    String.utf8EncodeChar c =
      UInt8.ofNat (lead c.toNat) :: trail c.toNat (trailing c.toNat) := by
  have written := utf8EncodeChar_written c
  generalize c.toNat = v, String.utf8EncodeChar c = bytes at written
  rw [lead_eq, trailing]
  cases written with
  | one high => rw [if_pos (by omega), if_pos (by omega), trail]
  | two low high =>
    rw [if_neg (by omega), if_pos (by omega), if_neg (by omega), if_pos (by omega)]
    simp [trail]
  | three low high =>
    rw [if_neg (by omega), if_neg (by omega), if_pos (by omega), if_neg (by omega),
      if_neg (by omega), if_pos (by omega)]
    simp [trail]
  | four low high =>
    rw [if_neg (by omega), if_neg (by omega), if_neg (by omega), if_neg (by omega),
      if_neg (by omega), if_neg (by omega)]
    simp [trail]

private theorem byte_lt {a b : Nat} (bound : b < 256) (below : a < b) (left right : Bytes) :
    UInt8.ofNat a :: left < UInt8.ofNat b :: right := by
  refine List.cons_lt_cons_iff.mpr (.inl ?_)
  rw [UInt8.lt_iff_toNat_lt, UInt8.toNat_ofNat', UInt8.toNat_ofNat', Nat.mod_eq_of_lt bound,
    Nat.mod_eq_of_lt (below.trans bound)]
  exact below

/-- Where the digits before them are the same, the last digits decide. -/
theorem trail_lt {v w count : Nat} (below : v < w) (same : v / 64 ^ count = w / 64 ^ count)
    (left right : Bytes) : trail v count ++ left < trail w count ++ right := by
  -- The foremost of the last digits is compared first.
  induction count with
  | zero =>
    simp only [Nat.pow_zero, Nat.div_one] at same
    omega
  | succ count ih =>
    have next (n : Nat) : n / 64 ^ (count + 1) = n / 64 ^ count / 64 := by
      rw [Nat.pow_succ, Nat.div_div_eq_div_mul]
    rw [next, next] at same
    rcases (Nat.div_le_div_right below.le : v / 64 ^ count ≤ w / 64 ^ count).lt_or_eq with first | first
    · exact byte_lt (by omega) (by omega) _ _
    · rw [trail, trail, first]
      exact List.cons_lt_cons_iff.mpr (.inr ⟨rfl, ih first⟩)

/-- The writing of a smaller character is smaller, whatever comes after it. -/
theorem utf8EncodeChar_lt {c d : Char} (below : c < d) (left right : Bytes) :
    String.utf8EncodeChar c ++ left < String.utf8EncodeChar d ++ right := by
  have less : c.toNat < d.toNat := below
  have bound : lead d.toNat < 256 := (utf8EncodeChar_written d).lead_lt
  rw [utf8EncodeChar_eq_lead, utf8EncodeChar_eq_lead]
  generalize c.toNat = v at less
  generalize d.toNat = w at less bound
  by_cases same : trailing v = trailing w
  · -- As many bytes follow, so the numbers are compared digit by digit.
    simp only [lead, same] at bound ⊢
    rcases (Nat.div_le_div_right less.le : v / 64 ^ trailing w ≤ w / 64 ^ trailing w).lt_or_eq
      with first | first
    · exact byte_lt bound (Nat.add_lt_add_right first _) _ _
    · rw [first]
      exact List.cons_lt_cons_iff.mpr (.inr ⟨rfl, trail_lt less first _ _⟩)
  · exact byte_lt bound (lead_lt_of_trailing_ne less same) _ _

/-- Texts stand in the order of their bytes. -/
theorem encode_lt {left right : List Char} (below : left < right) : encode left < encode right := by
  induction below with
  | nil =>
    rw [encode_nil, encode_cons, utf8EncodeChar_eq_lead]
    exact List.nil_lt_cons _ _
  | rel less => exact utf8EncodeChar_lt less _ _
  | cons _ ih => exact List.append_left_lt ih

theorem ofString_lt {left right : String} (below : left < right) : ofString left < ofString right :=
  encode_lt (String.lt_iff_toList_lt.mp below)

end ScriptSandbox.Utf8
