import ScriptSandbox.Proofs.Guest.ErrorText
import ScriptSandbox.Proofs.Guest.Memory
import ScriptSandbox.Proofs.Guest.Running

/-!
# What the host reads of an exception

A guest writes the string and the stack of a thrown value into one text, with a mark between them.
The host reads the text back from the region for error texts and splits it at the first mark.
Nothing of a text that fits the region is lost on this way, but the string may hold the mark as well,
so the two parts are those that were written exactly when it does not.
-/
namespace ScriptSandbox.Guest

open Script (Completion Failure Report Value)
open Script.Failure (exceptionMark stackMark exceptionText)

/-! ### Taking an error text apart -/

theorem heading_trailer {message : List Char} (unmarked : ¬ stackMark <:+: message)
    (stack : Option (List Char)) :
    Search.heading stackMark (message ++ trailer stack) = message := by
  obtain ⟨more, starts⟩ := trailer_start stack
  have nothing : Search.heading stackMark (trailer stack) = [] := by
    cases stack with
    | none => exact Search.heading_nil
    | some stack => exact Search.heading_cons_of_start (List.prefix_append stackMark stack)
  rw [heading_unmarked unmarked starts, nothing, List.append_nil]

theorem trailer_injective {stack other : Option (List Char)} (same : trailer stack = trailer other) :
    stack = other := by
  have long : stackMark ≠ [] := by decide
  cases stack <;> cases other <;> simp_all [trailer]

/-- A message without the mark, and its stack, can be told from the text that is written of them. -/
theorem exceptionText_injective {message other : List Char} {stack behind : Option (List Char)}
    (unmarked : ¬ stackMark <:+: message) (unmarked' : ¬ stackMark <:+: other)
    (same : exceptionText message stack = exceptionText other behind) :
    message = other ∧ stack = behind := by
  rw [exceptionText_eq, exceptionText_eq, List.append_cancel_left_eq] at same
  obtain rfl : message = other := by
    rw [← heading_trailer unmarked stack, same, heading_trailer unmarked' behind]
  exact ⟨rfl, trailer_injective (List.append_cancel_left same)⟩

/-- A split is undone by writing its parts, and its message does not hold the mark. -/
theorem eq_of_split {body message : List Char} {stack : Option (List Char)}
    (parts : Failure.split (exceptionMark ++ body) = (message, stack)) :
    exceptionText message stack = exceptionMark ++ body ∧ ¬ stackMark <:+: message := by
  have after : Search.after? exceptionMark (exceptionMark ++ body) = some body :=
    Search.after?_eq_some_iff.mpr rfl
  have heading := split_exception body
  rw [parts] at heading
  constructor
  · rw [exceptionText_eq]
    cases cut : Search.cut? stackMark body with
    | none =>
      obtain ⟨rfl, rfl⟩ : body = message ∧ none = stack := by
        simpa [Failure.split, after, cut] using parts
      simp [trailer]
    | some found =>
      obtain ⟨rfl, rfl⟩ : found.1 = message ∧ some found.2 = stack := by
        simpa [Failure.split, after, cut] using parts
      simp [trailer, Search.eq_of_cut? cut]
  · rw [show message = _ from heading]
    exact Search.not_occurs_heading (by decide)

/-- What the host makes of the error text of an exception with a message and a stack. -/
structure ReadsBack (failure : Failure) (message : String) (stack : Option String) : Prop where
  kind : failure.kind = .exception
  status : failure.status = Status.exception.code
  /-- Of what was written nothing is lost or moved. -/
  text : exceptionText failure.message.toList (failure.stack.map String.toList) =
    exceptionText message.toList (stack.map String.toList)
  unmarked : ¬ stackMark <:+: failure.message.toList
  exact_iff : (failure.message = message ∧ failure.stack = stack) ↔ ¬ stackMark <:+: message.toList

theorem ofGuest_readsBack (message : String) (stack : Option String) :
    ReadsBack (.ofGuest Status.exception.code (String.ofList
      (exceptionText message.toList (stack.map String.toList)))) message stack := by
  rcases parts : Failure.split (exceptionText message.toList (stack.map String.toList)) with
    ⟨first, second⟩
  have made : Failure.ofGuest Status.exception.code (String.ofList
      (exceptionText message.toList (stack.map String.toList))) =
      ⟨.exception, Status.exception.code, String.ofList first, second.map String.ofList, []⟩ := by
    simp only [Failure.ofGuest, String.toList_ofList, parts]
    rfl
  have chars : (second.map String.ofList).map String.toList = second := by
    cases second <;> simp
  rw [exceptionText_eq] at parts
  obtain ⟨whole, unmarked⟩ := eq_of_split parts
  rw [← exceptionText_eq] at whole
  rw [made]
  constructor
  case kind => rfl
  case status => rfl
  case text => simpa only [String.toList_ofList, chars] using whole
  case unmarked => simpa only [String.toList_ofList] using unmarked
  case exact_iff =>
    constructor
    · rintro ⟨rfl, -⟩
      simpa only [String.toList_ofList] using unmarked
    · intro unmarked'
      obtain ⟨rfl, rfl⟩ := exceptionText_injective unmarked unmarked' whole
      cases stack <;> simp

/-! ### Through the region for error texts -/

/-- The string of a thrown value. -/
def thrownString (thrown : Value) (globals : Script.Globals) : String :=
  (Script.thrownMessage thrown globals).1

/-- The stack of a thrown value, as it is after its string was asked for. -/
def thrownStack (thrown : Value) (globals : Script.Globals) : Option String :=
  (Script.propertyText thrown "stack" (Script.thrownMessage thrown globals).2).1

theorem thrownText_eq (thrown : Value) (globals : Script.Globals) :
    (Script.thrownText thrown globals).1 = String.ofList (exceptionText
      (thrownString thrown globals).toList ((thrownStack thrown globals).map String.toList)) := rfl

/-- The accessors of an instance find the region for error texts in its memory. -/
structure Finds {σ : Type} (inst : Instance σ) (machine : Machine) (region : TextRegion) where
  after : Instance σ
  start : Nat
  final : Machine
  located : (inst.region .readError errorAccessors).run machine =
    (.ok (after, ⟨start, region.used⟩), final)
  read : final.memory.read? start region.capacity = some region.bytes

section

variable {σ α : Type} {inst : Instance σ} {machine : Machine}

theorem Finds.readText {region : TextRegion} (finds : Finds inst machine region)
    (within : region.used ≤ region.capacity) :
    (inst.readText .readError errorAccessors).run machine =
      (.ok (Utf8.toStringLossy region.content), finds.final) := by
  apply Instance.readText_of_region finds.located
  exact Memory.read?_take finds.read within

/-- An error text that fits is read as it was written. -/
theorem readText_of_fits {region filled : TextRegion} {text : String}
    (kept : filled = region.set text.toList)
    (fits : (Utf8.ofString text).length ≤ region.capacity) (finds : Finds inst machine filled) :
    (inst.readText .readError errorAccessors).run machine = (.ok text, finds.final) := by
  subst kept
  have content : (region.set text.toList).content = Utf8.ofString text := by
    rw [TextRegion.content_set]
    exact TextRegion.fitting_of_fits fits
  rw [finds.readText (TextRegion.used_set_le region text.toList), content, Utf8.ofString,
    Utf8.toStringLossy_encode, String.ofList_toList]

/-- When an evaluation ends with an exception whose text fits, the host reads a failure that gives
back its string and its stack unless the string holds the mark. -/
theorem exception_read_back {core : Core} {interpret : α → Except Report String} {source : α}
    {thrown : Value} {globals : Script.Globals}
    (capacity : core.error.capacity = errorCapacity)
    (throws : interpret source = (Completion.thrown thrown globals).report)
    (fits : (Utf8.ofString (Script.thrownText thrown globals).1).length ≤ errorCapacity)
    (finds : Finds inst machine (core.eval interpret (some source)).1.error) :
    (core.eval interpret (some source)).2 = .exception ∧
      ∃ raw, (inst.readText .readError errorAccessors).run machine = (.ok raw, finds.final) ∧
        ReadsBack (.ofGuest Status.exception.code raw) (thrownString thrown globals)
          (thrownStack thrown globals) := by
  have reported : interpret source =
      .error ⟨.exception, (Script.thrownText thrown globals).1⟩ := throws
  have kept : (core.eval interpret (some source)).1.error =
      core.error.clear.set (Script.thrownText thrown globals).1.toList := by
    simp only [Core.eval, reported, Core.keep, Core.clear]
  have room : core.error.clear.capacity = errorCapacity := capacity
  constructor
  · simp only [Core.eval, reported, Core.keep]
  · refine ⟨(Script.thrownText thrown globals).1, ?_, ?_⟩
    · exact readText_of_fits kept (room ▸ fits) finds
    · rw [thrownText_eq]
      exact ofGuest_readsBack _ _

end

/-! ### A message that quotes another error -/

namespace QuotedError

/-- What a script throws that was told of the failure of another one. -/
def text : String := "job failed: boom\nStack: at job"

def program : Script.Program := ⟨[], [.throw (.string (Script.units text))]⟩

def interpret (program : Script.Program) : Except Report String :=
  (Script.evaluate Script.loopback program).outcome

def thrown : Value := .ofString text

/-- The region for error texts after the evaluation. -/
def region : TextRegion := (({} : Core).eval interpret (some program)).1.error

/-- A guest with this region at the start of its memory. -/
def inst : Instance Unit where
  image := {
    pages := 1, maxPages := none, data := [], globals := (), start := none
    exports := [
      ("get_last_error_ptr", .getter fun _ => .finish () 0),
      ("get_last_error_len", .getter fun _ => .finish () (UInt32.ofNat region.used))] }
  around := ⟨⟨{}, ⟨⟨["box"], none⟩, .ofPolicy {} .offline, fun _ => {}⟩⟩, ⟨none, 0⟩, true⟩
  globals := ()

def machine : Machine := ⟨⟨Memory.pageSize, fun place => region.bytes.getD place 0⟩, ⟨{}, {}⟩⟩

theorem located : (inst.region .readError errorAccessors).run machine =
    (.ok (inst, ⟨0, region.used⟩), machine) := by
  have start : (inst.access .readError errorAccessors.start).run machine =
      (.ok (inst, 0), machine) := rfl
  have length : (inst.access .readError errorAccessors.length).run machine =
      (.ok (inst, UInt32.ofNat region.used), machine) := rfl
  have positive : ¬ (UInt32.ofNat region.used).toInt32 < 0 := by decide +kernel
  have same : (UInt32.ofNat region.used).toNat = region.used := by decide +kernel
  rw [Instance.region_of_words start length positive, same]
  rfl

theorem read_region : machine.memory.read? 0 region.capacity = some region.bytes := by
  have starts : machine.memory.byteAt = fun place => region.bytes.getD place 0 := by
    simp only [machine]
  have fits : region.bytes.length ≤ machine.memory.size := by decide +kernel
  exact Memory.read_start starts fits

def finds : Finds inst machine (({} : Core).eval interpret (some program)).1.error where
  after := inst
  start := 0
  final := machine
  located := located
  read := read_region

/-- The host takes the quoted stack for the one of what was thrown, which has none. -/
theorem quoted_stack_split_off : thrownStack thrown [] = none ∧
    ∃ raw, (inst.readText .readError errorAccessors).run machine = (.ok raw, machine) ∧
      ¬ ((Failure.ofGuest Status.exception.code raw).message = thrownString thrown [] ∧
        (Failure.ofGuest Status.exception.code raw).stack = none) := by
  have none : thrownStack thrown [] = none := rfl
  have capacity : ({} : Core).error.capacity = errorCapacity := TextRegion.capacity_ofCapacity _
  have throws : interpret program = (Completion.thrown thrown []).report := rfl
  have fits : (Utf8.ofString (Script.thrownText thrown []).1).length ≤ errorCapacity := by
    decide +kernel
  obtain ⟨_, raw, read, back⟩ := exception_read_back capacity throws fits finds
  have marked : Search.occursIn stackMark (thrownString thrown []).toList = true := by
    decide +kernel
  refine ⟨none, raw, read, fun same => ?_⟩
  exact back.exact_iff.mp (none ▸ same) (Search.occursIn_iff.mp marked)

end QuotedError

end ScriptSandbox.Guest
