import ScriptSandbox.Text.Utf8

/-!
# Reading UTF-8

Reading gives back what was written, and goes on after it as if it had started there. A text that is
cut at a place where it may be cut is the writing of its first characters.
-/
namespace ScriptSandbox.Utf8

/-! ### Reading as a recursion on the bytes -/

/-- The pieces of a byte string read from a state on, and where reading stands after it. -/
def run : State → Bytes → List (Option Char) × State
  | state, [] => ([], state)
  | state, byte :: rest =>
    let (found, next) := step state byte
    let (later, last) := run next rest
    (found ++ later, last)

private theorem foldl_run (bytes : Bytes) (reversed : List (Option Char)) (state : State) :
    bytes.foldl (fun (reversed, state) byte =>
        let (found, next) := step state byte
        (found.reverse ++ reversed, next)) (reversed, state) =
      ((run state bytes).1.reverse ++ reversed, (run state bytes).2) := by
  induction bytes generalizing reversed state with
  | nil => rfl
  | cons byte rest ih => simp [run, ih]

theorem pieces_eq_run (bytes : Bytes) :
    pieces bytes = (run .between bytes).1 ++ finish (run .between bytes).2 := by
  simp only [pieces]
  rw [foldl_run]
  simp

theorem run_append (first second : Bytes) (state : State) :
    run state (first ++ second) =
      ((run state first).1 ++ (run (run state first).2 second).1,
        (run (run state first).2 second).2) := by
  induction first generalizing state with
  | nil => rfl
  | cons byte rest ih => simp [run, ih]

/-! ### One character -/

/-- How a character with this number is written, by the number of bytes it takes. -/
inductive Written (value : Nat) : Bytes → Prop where
  | one (high : value < 0x80) : Written value [UInt8.ofNat value]
  | two (low : 0x80 ≤ value) (high : value < 0x800) :
      Written value [UInt8.ofNat (value / 64 + 0xC0), UInt8.ofNat (value % 64 + 0x80)]
  | three (low : 0x800 ≤ value) (high : value < 0x10000)
      (surrogates : value < 0xD800 ∨ 0xDFFF < value) :
      Written value [UInt8.ofNat (value / 4096 + 0xE0), UInt8.ofNat (value / 64 % 64 + 0x80),
        UInt8.ofNat (value % 64 + 0x80)]
  | four (low : 0x10000 ≤ value) (high : value < 0x110000) :
      Written value [UInt8.ofNat (value / 262144 + 0xF0), UInt8.ofNat (value / 4096 % 64 + 0x80),
        UInt8.ofNat (value / 64 % 64 + 0x80), UInt8.ofNat (value % 64 + 0x80)]

theorem utf8EncodeChar_written (c : Char) : Written c.toNat (String.utf8EncodeChar c) := by
  have valid := c.valid
  simp only [UInt32.isValidChar, Nat.isValidChar] at valid
  unfold String.utf8EncodeChar Char.toNat
  generalize c.val.toNat = v at valid
  dsimp only
  -- The first byte of a number that is not too large needs no remainder.
  split
  next => exact .one (by omega)
  next =>
    split
    next =>
      rw [Nat.mod_eq_of_lt (by omega : v / 64 < 32)]
      exact .two (by omega) (by omega)
    next =>
      split
      next =>
        rw [Nat.mod_eq_of_lt (by omega : v / 4096 < 16)]
        exact .three (by omega) (by omega) (by omega)
      next =>
        rw [Nat.mod_eq_of_lt (by omega : v / 262144 < 8)]
        exact .four (by omega) (by omega)

private theorem toNat_ofNat (n : Nat) (bound : n < 256) : (UInt8.ofNat n).toNat = n := by
  simpa using bound

private theorem start_ascii {n : Nat} (bound : n < 0x80) :
    start (UInt8.ofNat n) = ([some (Char.ofNat n)], .between) := by
  have value := toNat_ofNat n (by omega)
  simp only [start, UInt8.lt_iff_toNat_lt, UInt8.reduceToNat, value]
  rw [if_pos bound]

private theorem start_two (bits : Nat) (low : 2 ≤ bits) (high : bits < 32) :
    start (UInt8.ofNat (bits + 0xC0)) = ([], .inside 1 0x80 0xBF bits) := by
  have value := toNat_ofNat (bits + 0xC0) (by omega)
  have rest : (bits + 0xC0) % 32 = bits := by omega
  simp only [start, UInt8.lt_iff_toNat_lt, UInt8.reduceToNat, value, rest]
  rw [if_neg (by omega), if_neg (by omega), if_pos (by omega)]

private theorem start_three (bits : Nat) (bound : bits < 16) :
    start (UInt8.ofNat (bits + 0xE0)) =
      ([], .inside 2 (if bits = 0 then 0xA0 else 0x80) (if bits = 13 then 0x9F else 0xBF)
        bits) := by
  have value := toNat_ofNat (bits + 0xE0) (by omega)
  have rest : (bits + 0xE0) % 16 = bits := by omega
  have first : bits + 0xE0 = 0xE0 ↔ bits = 0 := by omega
  have surrogates : bits + 0xE0 = 0xED ↔ bits = 13 := by omega
  simp only [start, UInt8.lt_iff_toNat_lt, ← UInt8.toNat_inj, UInt8.reduceToNat, value, rest, first,
    surrogates]
  rw [if_neg (by omega), if_neg (by omega), if_neg (by omega), if_pos (by omega)]

private theorem start_four (bits : Nat) (bound : bits < 5) :
    start (UInt8.ofNat (bits + 0xF0)) =
      ([], .inside 3 (if bits = 0 then 0x90 else 0x80) (if bits = 4 then 0x8F else 0xBF) bits) := by
  have value := toNat_ofNat (bits + 0xF0) (by omega)
  have rest : (bits + 0xF0) % 8 = bits := by omega
  have first : bits + 0xF0 = 0xF0 ↔ bits = 0 := by omega
  have end_ : bits + 0xF0 = 0xF4 ↔ bits = 4 := by omega
  simp only [start, UInt8.lt_iff_toNat_lt, ← UInt8.toNat_inj, UInt8.reduceToNat, value, rest, first,
    end_]
  rw [if_neg (by omega), if_neg (by omega), if_neg (by omega), if_neg (by omega), if_pos (by omega)]

private theorem step_inside (owed code bits : Nat) (low high : UInt8) (bound : bits < 64)
    (above : low.toNat ≤ bits + 0x80) (below : bits + 0x80 ≤ high.toNat) :
    step (.inside owed low high code) (UInt8.ofNat (bits + 0x80)) =
      if owed ≤ 1 then ([some (Char.ofNat (code * 64 + bits))], .between)
      else ([], .inside (owed - 1) 0x80 0xBF (code * 64 + bits)) := by
  have value := toNat_ofNat (bits + 0x80) (by omega)
  have rest : (bits + 0x80) % 64 = bits := by omega
  simp only [step, UInt8.le_iff_toNat_le, value, rest]
  rw [if_pos ⟨above, below⟩]

/-- A continuation byte that needs no closer look: any of them may stand here. -/
private theorem step_owed {owed code bits : Nat} (bound : bits < 64) :
    step (.inside owed 0x80 0xBF code) (UInt8.ofNat (bits + 0x80)) =
      if owed ≤ 1 then ([some (Char.ofNat (code * 64 + bits))], .between)
      else ([], .inside (owed - 1) 0x80 0xBF (code * 64 + bits)) :=
  step_inside owed code bits 0x80 0xBF bound (by simp) (by simp; omega)

private theorem step_between (byte : UInt8) : step .between byte = start byte := rfl

theorem run_utf8EncodeChar (c : Char) :
    run .between (String.utf8EncodeChar c) = ([some c], .between) := by
  have whole : Char.ofNat c.toNat = c := Char.ofNat_toNat c
  have written := utf8EncodeChar_written c
  generalize c.toNat = v, String.utf8EncodeChar c = bytes at whole written
  have last : v % 64 < 64 := Nat.mod_lt v (by decide)
  -- Three and four bytes have a closer look at the second one, which rules out surrogates, values
  -- that are too large and writings that are too long.
  cases written with
  | one high => simp only [run, step_between, start_ascii high, whole, List.append_nil]
  | two low high =>
    have lead := start_two (v / 64) (by omega) (by omega)
    have code : v / 64 * 64 + v % 64 = v := by omega
    simp only [run, step_between, lead, step_owed last, code, whole]
    rfl
  | three low high surrogates =>
    have lead := start_three (v / 4096) (by omega)
    have second := step_inside 2 (v / 4096) (v / 64 % 64)
      (if v / 4096 = 0 then 0xA0 else 0x80) (if v / 4096 = 13 then 0x9F else 0xBF)
      (by omega) (by split <;> simp; omega) (by split <;> simp <;> omega)
    have code : (v / 4096 * 64 + v / 64 % 64) * 64 + v % 64 = v := by omega
    simp only [run, step_between, lead, second, Nat.reduceLeDiff, if_false, Nat.reduceSub,
      step_owed last, code, whole]
    rfl
  | four low high =>
    have lead := start_four (v / 262144) (by omega)
    have second := step_inside 3 (v / 262144) (v / 4096 % 64)
      (if v / 262144 = 0 then 0x90 else 0x80) (if v / 262144 = 4 then 0x8F else 0xBF)
      (by omega) (by split <;> simp; omega) (by split <;> simp <;> omega)
    have third : v / 64 % 64 < 64 := Nat.mod_lt (v / 64) (by decide)
    have code : ((v / 262144 * 64 + v / 4096 % 64) * 64 + v / 64 % 64) * 64 + v % 64 = v := by
      omega
    simp only [run, step_between, lead, second, Nat.reduceLeDiff, if_false, Nat.reduceSub,
      step_owed third, step_owed last, code, whole]
    rfl

/-! ### Texts -/

@[simp] theorem encode_nil : encode [] = [] := rfl

@[simp] theorem encode_cons (c : Char) (text : List Char) :
    encode (c :: text) = String.utf8EncodeChar c ++ encode text := rfl

@[simp] theorem encode_append (first second : List Char) :
    encode (first ++ second) = encode first ++ encode second := by simp [encode]

theorem run_encode (text : List Char) : run .between (encode text) = (text.map some, .between) := by
  induction text with
  | nil => rfl
  | cons c rest ih => simp [run_append, run_utf8EncodeChar, ih]

/-- Reading goes on after a written text as if it had started there. -/
theorem pieces_encode_append (text : List Char) (bytes : Bytes) :
    pieces (encode text ++ bytes) = text.map some ++ pieces bytes := by
  simp [pieces_eq_run, run_append, run_encode]

theorem decodeLossy_encode_append (text : List Char) (bytes : Bytes) :
    decodeLossy (encode text ++ bytes) = text ++ decodeLossy bytes := by
  simp [decodeLossy, pieces_encode_append, Function.comp_def]

@[simp] theorem decodeLossy_encode (text : List Char) : decodeLossy (encode text) = text := by
  have nothing : decodeLossy [] = [] := rfl
  simpa only [nothing, List.append_nil] using decodeLossy_encode_append text []

@[simp] theorem toStringLossy_encode (text : List Char) :
    toStringLossy (encode text) = String.ofList text := by
  simp [toStringLossy]

/-- A written text is UTF-8, and is read as itself. -/
@[simp] theorem decode?_encode (text : List Char) : decode? (encode text) = some text := by
  have found : pieces (encode text) = text.map some := by
    have nothing : pieces [] = [] := rfl
    simpa only [nothing, List.append_nil] using pieces_encode_append text []
  simp [decode?, found]

/-! ### Bytes that stand for ASCII characters -/

theorem utf8EncodeChar_ascii {c : Char} (ascii : c.toNat < 0x80) :
    String.utf8EncodeChar c = [UInt8.ofNat c.toNat] := by
  unfold String.utf8EncodeChar
  exact if_pos (Nat.le_of_lt_succ ascii)

theorem toNat_ascii {c : Char} (ascii : c.toNat < 0x80) : (UInt8.ofNat c.toNat).toNat = c.toNat :=
  toNat_ofNat c.toNat (Nat.lt_trans ascii (by decide))

theorem encode_cons_ascii {c : Char} (ascii : c.toNat < 0x80) (text : List Char) :
    encode (c :: text) = UInt8.ofNat c.toNat :: encode text := by
  rw [encode_cons, utf8EncodeChar_ascii ascii, List.singleton_append]

/-- A character that is not ASCII is written without a byte that stands for one. -/
theorem le_of_mem_utf8EncodeChar {c : Char} {byte : UInt8} (other : 0x80 ≤ c.toNat)
    (member : byte ∈ String.utf8EncodeChar c) : 0x80 ≤ byte.toNat := by
  have marked : ∀ bits mark, 0x80 ≤ mark → bits + mark < 0x100 →
      0x80 ≤ (UInt8.ofNat (bits + mark)).toNat := by
    intro bits mark high bound
    rw [toNat_ofNat (bits + mark) bound]
    omega
  have written := utf8EncodeChar_written c
  generalize c.toNat = v, String.utf8EncodeChar c = bytes at other member written
  cases written with
  | one high => omega
  | two low high =>
    simp only [List.mem_cons, List.not_mem_nil, or_false] at member
    rcases member with rfl | rfl <;> exact marked _ _ (by decide) (by omega)
  | three low high =>
    simp only [List.mem_cons, List.not_mem_nil, or_false] at member
    rcases member with rfl | rfl | rfl <;> exact marked _ _ (by decide) (by omega)
  | four low high =>
    simp only [List.mem_cons, List.not_mem_nil, or_false] at member
    rcases member with rfl | rfl | rfl | rfl <;> exact marked _ _ (by decide) (by omega)

/-! ### Places where a text may be cut -/

/-- Whether a byte starts a character of a text. -/
def startsCharacter (byte : UInt8) : Bool := byte < 0x80 || 0xC0 ≤ byte

theorem isBoundary_of_lt {bytes : Bytes} {place : Nat} (inside : place < bytes.length) :
    isBoundary bytes place = startsCharacter bytes[place] := by
  simp [isBoundary, inside, startsCharacter]

private theorem starts_ascii {value : Nat} (bound : value < 0x80) :
    startsCharacter (UInt8.ofNat value) = true := by
  simp only [startsCharacter, UInt8.lt_iff_toNat_lt, UInt8.reduceToNat,
    toNat_ofNat value (by omega), bound, decide_true, Bool.true_or]

private theorem starts_marked {mark bits : Nat} (low : 0xC0 ≤ mark) (bound : bits + mark < 0x100) :
    startsCharacter (UInt8.ofNat (bits + mark)) = true := by
  simp only [startsCharacter, UInt8.lt_iff_toNat_lt, UInt8.le_iff_toNat_le, UInt8.reduceToNat,
    toNat_ofNat (bits + mark) bound, Bool.or_eq_true, decide_eq_true_eq]
  omega

private theorem not_starts_continuing (bits : Nat) :
    startsCharacter (UInt8.ofNat (bits % 64 + 0x80)) = false := by
  simp only [startsCharacter, UInt8.lt_iff_toNat_lt, UInt8.le_iff_toNat_le, UInt8.reduceToNat,
    toNat_ofNat (bits % 64 + 0x80) (by omega), Bool.or_eq_false_iff, decide_eq_false_iff_not]
  omega

/-- A character is written as one byte that starts it and bytes that do not. -/
theorem utf8EncodeChar_eq_cons (c : Char) : ∃ lead rest, String.utf8EncodeChar c = lead :: rest ∧
    startsCharacter lead = true ∧ ∀ byte ∈ rest, startsCharacter byte = false := by
  have written := utf8EncodeChar_written c
  generalize c.toNat = v, String.utf8EncodeChar c = bytes at written
  cases written with
  | one high => exact ⟨_, _, rfl, starts_ascii high, List.forall_mem_nil _⟩
  | two low high =>
    refine ⟨_, _, rfl, starts_marked (by decide) (by omega), ?_⟩
    exact List.forall_mem_singleton.mpr (not_starts_continuing _)
  | three low high =>
    refine ⟨_, _, rfl, starts_marked (by decide) (by omega), ?_⟩
    simp only [List.forall_mem_cons, not_starts_continuing, List.not_mem_nil, false_implies,
      implies_true, and_self]
  | four low high =>
    refine ⟨_, _, rfl, starts_marked (by decide) (by omega), ?_⟩
    simp only [List.forall_mem_cons, not_starts_continuing, List.not_mem_nil, false_implies,
      implies_true, and_self]

private theorem length_pos (c : Char) : 0 < (String.utf8EncodeChar c).length := by
  obtain ⟨lead, rest, written, _⟩ := utf8EncodeChar_eq_cons c
  simp [written]

/-- Within its first character a written text may be cut only in front of it. -/
private theorem isBoundary_within {c : Char} {text : List Char} {place : Nat}
    (within : place < (String.utf8EncodeChar c).length) :
    isBoundary (encode (c :: text)) place = true ↔ place = 0 := by
  obtain ⟨lead, rest, written, starts, continues⟩ := utf8EncodeChar_eq_cons c
  rw [written] at within
  have inside : place < (encode (c :: text)).length := by
    rw [encode_cons, written, List.length_append]
    omega
  rw [isBoundary_of_lt inside]
  simp only [encode_cons, written, List.getElem_append_left within]
  cases place with
  | zero => simp [starts]
  | succ place =>
    have inRest : place < rest.length := by simpa using within
    simp [continues _ (List.getElem_mem inRest)]

/-- Behind its first character it may be cut where the rest of the text may. -/
private theorem isBoundary_behind (c : Char) (text : List Char) (further : Nat) :
    isBoundary (encode (c :: text)) ((String.utf8EncodeChar c).length + further) =
      isBoundary (encode text) further := by
  simp only [isBoundary, encode_cons, List.getElem?_append_right (Nat.le_add_right _ _),
    Nat.add_sub_cancel_left, List.length_append, Nat.add_le_add_iff_left]

/-- A written text may be cut where the writing of one of its beginnings ends, and nowhere else. -/
theorem isBoundary_encode_iff (text : List Char) (place : Nat) :
    isBoundary (encode text) place = true ↔
      ∃ kept, kept <+: text ∧ (encode kept).length = place := by
  induction text generalizing place with
  | nil =>
    constructor
    · intro boundary
      exact ⟨[], List.prefix_rfl, by simpa [isBoundary, eq_comm] using boundary⟩
    · rintro ⟨kept, start, rfl⟩
      simp [isBoundary, List.prefix_nil.mp start]
  | cons c text ih =>
    rcases Nat.lt_or_ge place (String.utf8EncodeChar c).length with within | beyond
    · rw [isBoundary_within within]
      constructor
      · rintro rfl
        exact ⟨[], List.nil_prefix, rfl⟩
      · rintro ⟨kept, start, length⟩
        cases kept with
        | nil => exact length.symm
        | cons d kept =>
          -- A beginning with a character in it ends no sooner than the character does.
          obtain ⟨rfl, _⟩ := List.cons_prefix_cons.mp start
          simp only [encode_cons, List.length_append] at length
          omega
    · obtain ⟨further, rfl⟩ := Nat.exists_eq_add_of_le beyond
      rw [isBoundary_behind, ih]
      constructor
      · rintro ⟨kept, start, rfl⟩
        exact ⟨c :: kept, by simpa using start, by rw [encode_cons, List.length_append]⟩
      · rintro ⟨kept, start, length⟩
        cases kept with
        | nil =>
          have positive := length_pos c
          simp only [encode_nil, List.length_nil] at length
          omega
        | cons d kept =>
          obtain ⟨rfl, start'⟩ := List.cons_prefix_cons.mp start
          rw [encode_cons, List.length_append] at length
          exact ⟨kept, start', Nat.add_left_cancel length⟩

/-! ### Texts that are cut anywhere -/

/-- Where a byte brings reading back between two characters, it completes a piece. -/
private theorem step_ne_nil {state : State} {byte : UInt8} (back : (step state byte).2 = .between) :
    (step state byte).1 ≠ [] := by
  have first : (start byte).2 = .between → (start byte).1 ≠ [] := by
    grind [start]
  cases state with
  | between => exact first back
  | inside owed low high code =>
    simp only [step] at back ⊢
    grind

private theorem run_ne_nil {bytes : Bytes} {state : State} (nonempty : bytes ≠ [])
    (back : (run state bytes).2 = .between) : (run state bytes).1 ≠ [] := by
  induction bytes generalizing state with
  | nil => exact absurd rfl nonempty
  | cons byte rest ih =>
    simp only [run] at back ⊢
    intro nothing
    obtain ⟨atFirst, later⟩ := List.append_eq_nil_iff.mp nothing
    cases rest with
    | nil => exact step_ne_nil back atFirst
    | cons next rest => exact ih (List.cons_ne_nil _ _) back later

/-- The beginning of one character holds no character. -/
private theorem decodeLossy_beginning {c : Char} {kept cut : Bytes}
    (whole : kept ++ cut = String.utf8EncodeChar c) (nonempty : cut ≠ []) :
    ∀ d ∈ decodeLossy kept, d = replacement := by
  have read := run_utf8EncodeChar c
  rw [← whole, run_append, Prod.mk.injEq] at read
  obtain ⟨found, back⟩ := read
  -- What is cut off completes the one piece of the character, so the beginning completes none.
  have nothing : (run .between kept).1 = [] := by
    rcases List.append_eq_singleton_iff.mp found with ⟨nothing, _⟩ | ⟨_, later⟩
    · exact nothing
    · exact absurd later (run_ne_nil nonempty back)
  intro d member
  rw [decodeLossy, pieces_eq_run, nothing, List.nil_append] at member
  cases left : (run .between kept).2 with
  | between => simp [left, finish] at member
  | inside => simpa [left, finish] using member

/-- A written text that is cut anywhere reads as a beginning of the text, and replacement
characters for the character that is cut through. -/
theorem decodeLossy_take (text : List Char) (count : Nat) :
    ∃ kept broken, decodeLossy ((encode text).take count) = kept ++ broken ∧ kept <+: text ∧
      (encode kept).length ≤ count ∧ ∀ c ∈ broken, c = replacement := by
  induction text generalizing count with
  | nil =>
    have nothing : decodeLossy [] = [] := rfl
    exact ⟨[], [], by simp [nothing], List.prefix_rfl, by simp, by simp⟩
  | cons c text ih =>
    rcases Nat.lt_or_ge count (String.utf8EncodeChar c).length with within | beyond
    · rw [encode_cons, List.take_append_of_le_length (by omega)]
      refine ⟨[], _, rfl, List.nil_prefix, by simp, ?_⟩
      refine decodeLossy_beginning (List.take_append_drop count _) ?_
      rw [ne_eq, List.drop_eq_nil_iff]
      omega
    · obtain ⟨further, rfl⟩ := Nat.exists_eq_add_of_le beyond
      obtain ⟨kept, broken, read, start, length, lost⟩ := ih further
      refine ⟨c :: kept, broken, ?_, by simpa using start, ?_, lost⟩
      · have one := decodeLossy_encode_append [c] ((encode text).take further)
        simp only [encode_cons, encode_nil, List.append_nil] at one
        rw [encode_cons, List.take_length_add_append, one, read]
        rfl
      · rw [encode_cons, List.length_append]
        omega

end ScriptSandbox.Utf8
