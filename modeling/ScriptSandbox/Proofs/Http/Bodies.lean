import Mathlib.Data.List.Infix
import ScriptSandbox.Http.Exchange

/-!
# Bodies within a limit

The body of a response is read exactly when all of it arrives and the server neither promises nor
sends more than the limit. How it is cut into chunks does not matter. At no moment more than the
limit is buffered, and the chunk that would pass it is the last one that is asked for.
-/
namespace ScriptSandbox.Http

/-- All that a server sends of a body. -/
def Body.content (body : Body) : Bytes := body.chunks.flatten

/-- A body that arrives whole and stays within a limit. -/
structure Body.Fits (body : Body) (limit : Nat) : Prop where
  promised : ∀ length, body.declared = some length → length ≤ limit
  sent : body.content.length ≤ limit
  complete : body.complete = true

/-! ### Chunk by chunk -/

/-- What is buffered from moment to moment while chunks are taken. -/
def bufferings (buffered : Bytes) (chunks : List Bytes) : List Bytes :=
  chunks.inits.map (buffered ++ ·.flatten)

theorem bufferings_cons (buffered chunk : Bytes) (chunks : List Bytes) :
    bufferings buffered (chunk :: chunks) =
      buffered :: bufferings (buffered ++ chunk) chunks := by
  simp [bufferings, Function.comp_def, List.append_assoc]

theorem length_le_of_mem_bufferings {buffered moment : Bytes} {chunks : List Bytes}
    (member : moment ∈ bufferings buffered chunks) :
    moment.length ≤ buffered.length + chunks.flatten.length := by
  obtain ⟨taken, early, rfl⟩ := List.mem_map.mp member
  obtain ⟨later, rfl⟩ := (List.mem_inits _ _).mp early
  simp only [List.length_append, List.flatten_append]
  omega

variable {limit : Nat} {complete : Bool} {buffered : Bytes} {chunks : List Bytes}

/-- Chunks that stay within the limit are all taken. -/
theorem buffer_of_fits (fits : buffered.length + chunks.flatten.length ≤ limit) :
    buffer limit complete buffered chunks =
      ⟨if complete then .ok (buffered ++ chunks.flatten) else .error (.http .body),
        bufferings buffered chunks, []⟩ := by
  induction chunks generalizing buffered with
  | nil => simp [buffer, bufferings]
  | cons chunk rest ih =>
    rw [List.flatten_cons, List.length_append] at fits
    have within : ¬ limit < buffered.length + chunk.length := by omega
    have further : (buffered ++ chunk).length + rest.flatten.length ≤ limit := by
      rw [List.length_append]
      omega
    rw [buffer, if_neg within, ih further, bufferings_cons, List.flatten_cons, List.append_assoc]

/-- The first chunk that would pass the limit is the last one asked for. -/
theorem buffer_of_exceeds {before after : List Bytes} {chunk : Bytes}
    (fits : buffered.length + before.flatten.length ≤ limit)
    (exceeds : limit < buffered.length + before.flatten.length + chunk.length) :
    buffer limit complete buffered (before ++ chunk :: after) =
      ⟨.error (.responseTooLarge limit), bufferings buffered before, after⟩ := by
  induction before generalizing buffered with
  | nil =>
    have passed : limit < buffered.length + chunk.length := by simpa using exceeds
    rw [List.nil_append, buffer, if_pos passed]
    simp [bufferings]
  | cons first before ih =>
    rw [List.flatten_cons, List.length_append] at fits exceeds
    have within : ¬ limit < buffered.length + first.length := by omega
    rw [List.cons_append, buffer, if_neg within, ih, bufferings_cons]
    · rw [List.length_append]
      omega
    · rw [List.length_append]
      omega

/-- Chunks that pass the limit have a first one that does. -/
theorem exists_exceeding (inside : buffered.length ≤ limit)
    (exceeds : limit < buffered.length + chunks.flatten.length) :
    ∃ before chunk after, chunks = before ++ chunk :: after ∧
      buffered.length + before.flatten.length ≤ limit ∧
      limit < buffered.length + before.flatten.length + chunk.length := by
  induction chunks generalizing buffered with
  | nil => exact absurd exceeds (by simpa using inside)
  | cons chunk rest ih =>
    -- Either this chunk passes the limit, or a later one does when this one is buffered too.
    by_cases passed : limit < buffered.length + chunk.length
    · exact ⟨[], chunk, rest, rfl, by simpa using inside, by simpa using passed⟩
    · rw [List.flatten_cons, List.length_append] at exceeds
      have further := @ih (buffered ++ chunk)
      rw [List.length_append] at further
      obtain ⟨before, later, after, rfl, fits, passes⟩ := further (by omega) (by omega)
      refine ⟨chunk :: before, later, after, rfl, ?_, ?_⟩
      · rw [List.flatten_cons, List.length_append]
        omega
      · rw [List.flatten_cons, List.length_append]
        omega

/-! ### Whole bodies -/

namespace Body

/-- The ways in which a body is read. -/
inductive Read (body : Body) (limit : Nat) : Reading → Prop where
  | unbegun {length : Nat} (promise : body.declared = some length) (passed : limit < length) :
      Read body limit ⟨.error (.responseTooLarge limit), [], body.chunks⟩
  | ended (promised : ∀ length, body.declared = some length → length ≤ limit)
      (sent : body.content.length ≤ limit) :
      Read body limit ⟨if body.complete then .ok body.content else .error (.http .body),
        bufferings [] body.chunks, []⟩
  | stopped {before after : List Bytes} {chunk : Bytes}
      (promised : ∀ length, body.declared = some length → length ≤ limit)
      (cut : body.chunks = before ++ chunk :: after) (within : before.flatten.length ≤ limit)
      (passed : limit < before.flatten.length + chunk.length) :
      Read body limit ⟨.error (.responseTooLarge limit), bufferings [] before, after⟩

theorem read_of_overpromised {body : Body} {limit length : Nat}
    (promise : body.declared = some length) (passed : limit < length) :
    body.read limit = ⟨.error (.responseTooLarge limit), [], body.chunks⟩ := by
  unfold Body.read
  simp only [promise, if_pos passed]

theorem read_of_promised {body : Body} {limit : Nat}
    (promised : ∀ length, body.declared = some length → length ≤ limit) :
    body.read limit = buffer limit body.complete [] body.chunks := by
  unfold Body.read
  split
  next length promise => rw [if_neg (Nat.not_lt.mpr (promised length promise))]
  · rfl

theorem read_read (body : Body) (limit : Nat) : body.Read limit (body.read limit) := by
  by_cases promised : ∀ length, body.declared = some length → length ≤ limit
  · rw [read_of_promised promised]
    by_cases sent : body.content.length ≤ limit
    · have fits : ([] : Bytes).length + body.chunks.flatten.length ≤ limit := by
        rwa [List.length_nil, Nat.zero_add]
      rw [buffer_of_fits fits]
      exact .ended promised sent
    · have exceeds : limit < ([] : Bytes).length + body.chunks.flatten.length := by
        rw [List.length_nil, Nat.zero_add]
        exact Nat.lt_of_not_le sent
      obtain ⟨before, chunk, after, cut, within, passed⟩ :=
        exists_exceeding (Nat.zero_le limit) exceeds
      rw [cut, buffer_of_exceeds within passed]
      rw [List.length_nil, Nat.zero_add] at within passed
      exact .stopped promised cut within passed
  · -- The promise alone ends the reading, before any chunk.
    push Not at promised
    obtain ⟨length, promise, passed⟩ := promised
    rw [read_of_overpromised promise passed]
    exact .unbegun promise passed

/-- What comes after the first chunk that would pass the limit is not asked for. -/
theorem suffix_unread {body : Body} {limit : Nat} {before after : List Bytes} {chunk : Bytes}
    (cut : body.chunks = before ++ chunk :: after) (within : before.flatten.length ≤ limit)
    (passed : limit < before.flatten.length + chunk.length) :
    after <:+ (body.read limit).unread := by
  by_cases promised : ∀ length, body.declared = some length → length ≤ limit
  · rw [read_of_promised promised, cut, buffer_of_exceeds]
    · rwa [List.length_nil, Nat.zero_add]
    · rwa [List.length_nil, Nat.zero_add]
  · push Not at promised
    obtain ⟨length, promise, exceeds⟩ := promised
    rw [read_of_overpromised promise exceeds, cut]
    exact ⟨before ++ [chunk], by simp⟩

namespace Read

variable {body : Body} {limit : Nat} {reading : Reading}

theorem content_of_cut {before after : List Bytes} {chunk : Bytes}
    (cut : body.chunks = before ++ chunk :: after) :
    body.content.length = before.flatten.length + chunk.length + after.flatten.length := by
  rw [content, cut, List.flatten_append, List.flatten_cons, List.length_append, List.length_append,
    Nat.add_assoc]

theorem ok_iff (read : body.Read limit reading) {bytes : Bytes} :
    reading.outcome = .ok bytes ↔ body.Fits limit ∧ bytes = body.content := by
  cases read with
  | unbegun promise passed =>
    constructor
    · rintro ⟨⟩
    · rintro ⟨fits, -⟩
      exact absurd (fits.promised _ promise) (Nat.not_le.mpr passed)
  | ended promised sent =>
    cases complete : body.complete with
    | false =>
      constructor
      · rintro ⟨⟩
      · rintro ⟨fits, -⟩
        exact absurd fits.complete (by simp [complete])
    | true =>
      have fits : body.Fits limit := ⟨promised, sent, complete⟩
      simp [fits, eq_comm]
  | stopped promised cut within passed =>
    constructor
    · rintro ⟨⟩
    · rintro ⟨fits, -⟩
      have sent := fits.sent
      rw [content_of_cut cut] at sent
      omega

theorem tooLarge_iff (read : body.Read limit reading) :
    reading.outcome = .error (.responseTooLarge limit) ↔
      (∃ length, body.declared = some length ∧ limit < length) ∨ limit < body.content.length := by
  cases read with
  | unbegun promise passed => simp [promise, passed]
  | ended promised sent =>
    have honest : ¬ ∃ length, body.declared = some length ∧ limit < length := by
      rintro ⟨length, promise, passed⟩
      exact Nat.not_lt.mpr (promised length promise) passed
    cases complete : body.complete <;> simp [honest, Nat.not_lt.mpr sent]
  | stopped promised cut within passed =>
    have exceeds : limit < body.content.length := by
      rw [content_of_cut cut]
      omega
    simp [exceeds]

/-- At every moment the buffer stays within the limit. -/
theorem bounded (read : body.Read limit reading) {moment : Bytes}
    (member : moment ∈ reading.buffers) : moment.length ≤ limit := by
  cases read with
  | unbegun => cases member
  | ended promised sent =>
    have most := length_le_of_mem_bufferings member
    rw [List.length_nil, Nat.zero_add] at most
    exact most.trans sent
  | stopped promised cut within passed =>
    have most := length_le_of_mem_bufferings member
    rw [List.length_nil, Nat.zero_add] at most
    exact most.trans within

end Read

end Body

theorem readCapped_eq_ok_iff {limit : Nat} {body : Body} {bytes : Bytes} :
    readCapped limit body = .ok bytes ↔ body.Fits limit ∧ bytes = body.content :=
  (body.read_read limit).ok_iff

/-! ### Bodies that arrive whole -/

/-- A body that arrives whole, without a promise of another length. -/
structure Body.Arrives (body : Body) : Prop where
  complete : body.complete = true
  promised : body.declared = none ∨ body.declared = some body.content.length

/-- A body that arrives whole is read exactly when its length is within the limit, whatever its
chunks are. -/
theorem Body.Arrives.readCapped_eq {body : Body} (arrives : body.Arrives) (limit : Nat) :
    readCapped limit body =
      if body.content.length ≤ limit then .ok body.content
      else .error (.responseTooLarge limit) := by
  split
  next sent =>
    refine readCapped_eq_ok_iff.mpr ⟨⟨fun length promise => ?_, sent, arrives.complete⟩, rfl⟩
    rcases arrives.promised with silent | promised
    · rw [silent] at promise
      cases promise
    · obtain rfl := Option.some.inj (promised.symm.trans promise)
      exact sent
  next exceeds =>
    exact (body.read_read limit).tooLarge_iff.mpr (.inr (Nat.lt_of_not_le exceeds))

/-- The limit holds for every way to cut a body into chunks: the body is read exactly when all of it
is within the limit, the cuts do not show in the answer, the buffer never passes the limit, and no
chunk is asked for behind the first one that would pass it, nor any when more than the limit is
promised. -/
theorem limit_holds_for_every_chunking {body : Body} (arrives : body.Arrives) (limit : Nat) :
    (∀ bytes, readCapped limit body = .ok bytes ↔
      body.content.length ≤ limit ∧ bytes = body.content) ∧
    (readCapped limit body = .error (.responseTooLarge limit) ↔ limit < body.content.length) ∧
    (∀ other : Body, other.Arrives → other.content = body.content →
      readCapped limit other = readCapped limit body) ∧
    (∀ moment ∈ (body.read limit).buffers, moment.length ≤ limit) ∧
    (∀ before chunk after, body.chunks = before ++ chunk :: after →
      before.flatten.length ≤ limit → limit < before.flatten.length + chunk.length →
      after <:+ (body.read limit).unread) ∧
    (body.declared ≠ none → limit < body.content.length →
      (body.read limit).buffers = [] ∧ (body.read limit).unread = body.chunks) := by
  have read := body.read_read limit
  refine ⟨fun bytes => ?_, ?_, fun other whole same => ?_, fun moment => read.bounded, ?_, ?_⟩
  · rw [arrives.readCapped_eq]
    split
    next sent => simp [sent, eq_comm]
    next exceeds => simp [exceeds]
  · rw [arrives.readCapped_eq]
    split
    next sent => simp [sent]
    next exceeds => simp [Nat.lt_of_not_le exceeds]
  · rw [arrives.readCapped_eq, whole.readCapped_eq, same]
  · exact fun before chunk after cut within passed => Body.suffix_unread cut within passed
  · intro promise exceeds
    rw [Body.read_of_overpromised (arrives.promised.resolve_left promise) exceeds]
    exact ⟨rfl, rfl⟩

/-- A body in three chunks, the second of which would pass a limit of two bytes. -/
def threeChunks : Body := ⟨none, [[1, 2], [3], [4, 5]], true⟩

theorem second_chunk_given_up : threeChunks.Arrives ∧
    readCapped 2 threeChunks = .error (.responseTooLarge 2) ∧
    (threeChunks.read 2).buffers = [[], [1, 2]] ∧ [[4, 5]] <:+ (threeChunks.read 2).unread := by
  have arrives : threeChunks.Arrives := ⟨rfl, .inl rfl⟩
  have limit := limit_holds_for_every_chunking arrives 2
  refine ⟨arrives, limit.2.1.mpr (by decide), rfl, ?_⟩
  exact limit.2.2.2.2.1 [[1, 2]] [3] [[4, 5]] rfl (by decide) (by decide)

end ScriptSandbox.Http
