import Mathlib.Data.List.Induction
import ScriptSandbox.Proofs.Files.Confinement

/-!
# What becomes of the root

The files of a script lie in a root directory, which may still be missing at the start. A root that
is a directory stays one, and a missing root is made into a directory by what is put into it. Only
one kind of payload spoils it: a write at the root itself puts a file in the place of a missing
root, also where it breaks off, and nothing that a script can do afterwards takes this file away.
-/
namespace ScriptSandbox.Files

/-! ### Writes and the node at their path -/

/-- A write opened its file: it came to its end, or it broke off. -/
def Opened (outcome : Except Fault Unit) : Prop :=
  outcome = .ok () ∨ ∃ reason, outcome = .error (.brokenOff reason)

theorem Whole.not_opened {fault : Fault} (whole : ∀ reason, fault ≠ .brokenOff reason) :
    ¬ Opened (.error fault) := by
  rintro (succeeded | ⟨reason, broken⟩)
  · cases succeeded
  · exact whole reason (Except.error.inj broken)

/-- A write leaves the node at its path, or it opens a file there, where no directory stood. -/
theorem writeFile_cases {tree : Tree} {path : Path} (clear : tree.Clear path) (system : System)
    (content : Bytes) :
    (¬ Opened (tree.writeFile system path content).1 ∧
        (tree.writeFile system path content).2.find? path = tree.find? path) ∨
      (Opened (tree.writeFile system path content).1 ∧ tree.find? path ≠ some .directory ∧
        ∃ stored, (tree.writeFile system path content).2.find? path = some (.file stored)) := by
  have below {between : Tree} (free : between.find? path ≠ some .directory) : path ≠ [] := by
    rintro rfl
    exact free (Tree.find?_nil _)
  have written := writeFile_written clear system content
  generalize tree.writeFile system path content = result at written ⊢
  cases written with
  | failed grown whole => exact .inl ⟨Whole.not_opened whole, grown.same⟩
  | brokenOff grown free =>
    exact .inr ⟨.inr ⟨_, rfl⟩, grown.same ▸ free, _, Tree.find?_insert_self _ (below free) _⟩
  | done grown _ free =>
    exact .inr ⟨.inl rfl, grown.same ▸ free, _, Tree.find?_insert_self _ (below free) _⟩

/-! ### The node at the root -/

/-- The node at a place is as it was, or a directory has come where nothing stood. -/
def Kept (place : Path) (before after : Tree) : Prop :=
  after.find? place = before.find? place ∨
    (before.find? place = none ∧ after.find? place = some .directory)

theorem Kept.of_grown {path : Path} {before after : Tree} (grown : Grown path before after)
    (place : Path) : Kept place before after :=
  (grown place).imp_right fun ⟨_, missing, created⟩ => ⟨missing, created⟩

/-- An action below a place keeps the node there. -/
theorem Confined.kept {action : FileAction} {place path : Path} {before after : Tree}
    (confined : Confined action path before after) (below : place <+: path) (other : path ≠ place) :
    Kept place before after := by
  by_cases same : after.find? place = before.find? place
  · exact .inl same
  · cases confined.touches place same with
    | target => exact absurd rfl other
    | below _ above =>
      exact absurd (above.eq_of_length_le below.length_le) other
    | above _ missing created => exact .inr ⟨missing, created⟩

namespace Boundary

@[simp] theorem lift_eq_ok_iff {α : Type} {outcome : Except Fault α} {value : α} :
    lift outcome = .ok value ↔ outcome = .ok value := by
  cases outcome <;> simp [lift]

@[simp] theorem lift_eq_error_iff {α : Type} {outcome : Except Fault α} {fault : Fault} :
    lift outcome = .error (.files fault) ↔ outcome = .error fault := by
  cases outcome <;> simp [lift]

end Boundary

open Bridge

theorem fileOutcome_value_iff {α : Type} {toJson : α → Json} {effect : Effect α} {value : Json} :
    (fileOutcome toJson effect).answer = .value value ↔
      ∃ result, effect.outcome = .ok result ∧ toJson result = value := by
  cases outcome : effect.outcome <;> simp [fileOutcome, outcome, Except.map, Answer.ofExcept]

theorem fileOutcome_failed_iff {α : Type} {toJson : α → Json} {effect : Effect α}
    {fault : ScriptSandbox.Fault} :
    (fileOutcome toJson effect).answer = .failed fault ↔ effect.outcome = .error fault := by
  cases outcome : effect.outcome <;> simp [fileOutcome, outcome, Except.map, Answer.ofExcept]

section Operations

variable {boundary : Boundary} {system : System} {tree : Tree} {call : Call} {requested : String}

/-- Deleting the root does nothing. -/
theorem runFile_delete_root (named : pathArg call .delete = .ok requested)
    (resolved : (boundary.resolve requested .delete).outcome = .ok boundary.root) :
    (runFile boundary system tree .delete call).files = tree := by
  simp only [runFile, named, fileOutcome, Boundary.delete]
  rw [(Boundary.perform_resolved resolved tree _).2, if_pos rfl]

theorem runFile_createDirectory_kept (linkFree : boundary.LinkFree tree)
    (named : pathArg call .createDirectory = .ok requested) {path : Path}
    (resolved : (boundary.resolve requested .createDirectory).outcome = .ok path) (place : Path) :
    Kept place tree (runFile boundary system tree .createDirectory call).files := by
  have clear := Boundary.clear_of_permits linkFree (Boundary.permits_of_resolve resolved)
  simp only [runFile, named, fileOutcome, Boundary.createDirectory]
  rw [(Boundary.perform_resolved resolved tree _).2]
  exact .of_grown (createDirectory_grown clear system) place

variable (system tree) in
/-- What a write at the path does that its text resolves to. -/
theorem runFile_write (named : pathArg call .writeText = .ok requested) {path : Path}
    (resolved : (boundary.resolve requested .writeText).outcome = .ok path) :
    let written := tree.writeFile system path (Utf8.ofString (contentOf (call.arg 1)))
    (∀ value, (runFile boundary system tree .writeText call).answer = .value value ↔
        written.1 = .ok () ∧ .null = value) ∧
      (∀ fault, (runFile boundary system tree .writeText call).answer = .failed (.files fault) ↔
        written.1 = .error fault) ∧
      (runFile boundary system tree .writeText call).files = written.2 := by
  intro written
  obtain ⟨outcome, files⟩ :
      (boundary.writeText system tree requested (contentOf (call.arg 1))).outcome =
          Boundary.lift written.1 ∧
        (boundary.writeText system tree requested (contentOf (call.arg 1))).tree = written.2 :=
    Boundary.perform_resolved resolved tree _
  refine ⟨fun value => ?_, fun fault => ?_, ?_⟩
  · simp only [runFile, named, fileOutcome_value_iff, outcome, Boundary.lift_eq_ok_iff]
    constructor
    · rintro ⟨⟨⟩, succeeded, same⟩
      exact ⟨succeeded, same⟩
    · rintro ⟨succeeded, same⟩
      exact ⟨(), succeeded, same⟩
  · simp only [runFile, named, fileOutcome_failed_iff, outcome, Boundary.lift_eq_error_iff]
  · simp only [runFile, named, fileOutcome, files]

/-- No operation but a write at the root itself does more to the root than to make it. -/
theorem runFile_root_kept (linkFree : boundary.LinkFree tree) (noConsent : boundary.consent = none)
    {action : FileAction} (named : pathArg call action = .ok requested)
    (other : action = .writeText →
      (boundary.resolve requested action).outcome ≠ .ok boundary.root) :
    Kept boundary.root tree (runFile boundary system tree action call).files := by
  cases runFile_effected linkFree system named with
  | unchanged same => exact .inl (by rw [same])
  | @changed path writes resolved confined =>
    have inside := (Boundary.permits_of_resolve resolved).within noConsent
    by_cases atRoot : path = boundary.root
    · rw [atRoot] at resolved
      cases action with
      | writeText => exact absurd resolved (other rfl)
      | delete => exact .inl (by rw [runFile_delete_root named resolved])
      | createDirectory => exact runFile_createDirectory_kept linkFree named resolved _
      | readText | listDirectory | «exists» => cases writes
    · exact confined.kept inside atRoot

end Operations

/-! ### Payloads -/

/-- A payload is accepted. -/
def Accepts (host : Host) (before : State) (payload : Bytes) : Prop :=
  ∃ value, (host.dispatch before payload).1 = .replied (.result value)

/-- A payload is answered by a write that broke off. -/
def BreaksOff (host : Host) (before : State) (payload : Bytes) : Prop :=
  ∃ reason, host.answer? before payload = some (.failed (.files (.brokenOff reason)))

/-- A write at the root itself that the host accepts, or that breaks off. -/
structure WritesRoot (host : Host) (before : State) (payload : Bytes) : Prop where
  asks : ∃ requested, host.fileRequest? before payload = some (.writeText, requested) ∧
    (host.access.boundary.resolve requested .writeText).outcome = .ok host.access.boundary.root
  opened : Accepts host before payload ∨ BreaksOff host before payload

section Dispatching

variable {host : Host} {before : State} {payload : Bytes}

/-- A call of an operation on files has its files, and is accepted when it has a value. -/
theorem dispatch_of_fileCall {action : FileAction} {call : Call}
    (called : host.fileCall? before payload = some (action, call)) :
    (host.dispatch before payload).2.world.files =
        (runFile host.access.boundary (host.system before) before.world.files action call).files ∧
      (Accepts host before payload ↔
        ∃ value, (runFile host.access.boundary (host.system before) before.world.files action
          call).answer = .value value) :=
  ⟨by rw [Host.dispatch_files, called], exists_congr fun _ => Host.dispatch_result_iff called⟩

/-- A call of a write is accepted or broken off when the write has opened its file. -/
theorem dispatch_of_write {requested : String} {path : Path}
    (asks : host.fileRequest? before payload = some (.writeText, requested))
    (resolved : (host.access.boundary.resolve requested .writeText).outcome = .ok path) :
    ∃ content,
      let written := before.world.files.writeFile (host.system before) path content
      (host.dispatch before payload).2.world.files = written.2 ∧
        (Accepts host before payload ↔ written.1 = .ok ()) ∧
        (Accepts host before payload ∨ BreaksOff host before payload ↔ Opened written.1) := by
  obtain ⟨call, called, named⟩ := Host.fileRequest?_eq_some_iff.mp asks
  obtain ⟨files, accepted⟩ := dispatch_of_fileCall called
  obtain ⟨value, failed, written⟩ :=
    runFile_write (host.system before) before.world.files named resolved
  have accepted_iff : Accepts host before payload ↔ _ :=
    accepted.trans ⟨fun ⟨_, answered⟩ => ((value _).mp answered).1,
      fun succeeded => ⟨.null, (value .null).mpr ⟨succeeded, rfl⟩⟩⟩
  refine ⟨_, files.trans written, accepted_iff, or_congr accepted_iff (exists_congr fun reason => ?_)⟩
  rw [Host.answer?_of_fileCall called, Option.some.injEq]
  exact failed _

variable (payload) in
/-- A write at the root that opens its file puts one where no directory stood, and no other payload
does more to the root than to make it. -/
theorem dispatch_root (linkFree : host.access.boundary.LinkFree before.world.files)
    (noConsent : host.access.boundary.consent = none) :
    (WritesRoot host before payload ∧
        before.world.files.find? host.access.boundary.root ≠ some .directory ∧
        ∃ content, (host.dispatch before payload).2.world.files.find? host.access.boundary.root =
          some (.file content)) ∨
      (¬ WritesRoot host before payload ∧
        Kept host.access.boundary.root before.world.files
          (host.dispatch before payload).2.world.files) := by
  by_cases atRoot : ∃ requested,
      host.fileRequest? before payload = some (.writeText, requested) ∧
      (host.access.boundary.resolve requested .writeText).outcome = .ok host.access.boundary.root
  · obtain ⟨requested, asks, resolved⟩ := atRoot
    have clear := Boundary.clear_of_permits linkFree (Boundary.permits_of_resolve resolved)
    obtain ⟨content, files, -, opened⟩ := dispatch_of_write asks resolved
    rw [files]
    rcases writeFile_cases clear (host.system before) content with
      ⟨unopened, same⟩ | ⟨wrote, free, stands⟩
    · -- A write that opens no file leaves the root as it was.
      exact .inr ⟨fun writes => unopened (opened.mp writes.opened), .inl same⟩
    · exact .inl ⟨⟨⟨requested, asks, resolved⟩, opened.mpr wrote⟩, free, stands⟩
  · right
    refine ⟨fun writes => atRoot writes.asks, ?_⟩
    cases called : host.fileCall? before payload with
    | none => exact .inl (by rw [Host.dispatch_files, called])
    | some request =>
      obtain ⟨action, call⟩ := request
      rw [(dispatch_of_fileCall called).1]
      cases named : pathArg call action with
      | error fault => exact .inl (by simp [runFile, named])
      | ok requested =>
        refine runFile_root_kept linkFree noConsent named ?_
        rintro rfl resolved
        exact atRoot ⟨requested, Host.fileRequest?_eq_some_iff.mpr ⟨call, called, named⟩, resolved⟩

end Dispatching

/-! ### Runs of payloads -/

/-- A root that scripts can use, or that is made when they need it. -/
def Tree.Usable (tree : Tree) (root : Path) : Prop :=
  tree.find? root = none ∨ tree.find? root = some .directory

/-- A write at a missing root that is accepted or breaks off. -/
def SpoilsRoot (host : Host) (before : State) (payload : Bytes) : Prop :=
  before.world.files.find? host.access.boundary.root = none ∧ WritesRoot host before payload

/-- One payload keeps a root usable unless it spoils it, and makes no spoiled root usable again. -/
theorem dispatch_usable_iff {host : Host} {before : State}
    (linkFree : host.access.boundary.LinkFree before.world.files)
    (noConsent : host.access.boundary.consent = none) (payload : Bytes) :
    (host.dispatch before payload).2.world.files.Usable host.access.boundary.root ↔
      before.world.files.Usable host.access.boundary.root ∧ ¬ SpoilsRoot host before payload := by
  rcases dispatch_root payload linkFree noConsent with
    ⟨writes, free, content, stands⟩ | ⟨other, same | ⟨missing, created⟩⟩
  · simp [Tree.Usable, SpoilsRoot, stands, free, writes]
  · simp [Tree.Usable, SpoilsRoot, same, other]
  · simp [Tree.Usable, SpoilsRoot, missing, created, other]

/-- A root that is a directory stays one. -/
theorem dispatch_directory {host : Host} {before : State}
    (linkFree : host.access.boundary.LinkFree before.world.files)
    (noConsent : host.access.boundary.consent = none) (payload : Bytes)
    (stands : before.world.files.find? host.access.boundary.root = some .directory) :
    (host.dispatch before payload).2.world.files.find? host.access.boundary.root =
      some .directory := by
  rcases dispatch_root payload linkFree noConsent with ⟨_, free, _⟩ | ⟨_, same | ⟨missing, _⟩⟩
  · exact absurd stands free
  · rw [same, stands]
  · rw [missing] at stands
    cases stands

/-- A root that was usable at first is usable after a run exactly when no payload of the run was a
write at the root, accepted or broken off, while it was missing. Once the root is a directory, it
stays one whatever comes. -/
theorem root_usable_unless_written (host : Host) (start : State)
    (noConsent : host.access.boundary.consent = none)
    (linkFree : host.access.boundary.LinkFree start.world.files)
    (usable : start.world.files.Usable host.access.boundary.root) :
    (∀ payloads, (host.serve start payloads).world.files.Usable host.access.boundary.root ↔
      ¬ ∃ earlier payload, earlier ++ [payload] <+: payloads ∧
        SpoilsRoot host (host.serve start earlier) payload) ∧
    (∀ earlier later,
      (host.serve start earlier).world.files.find? host.access.boundary.root = some .directory →
      (host.serve start (earlier ++ later)).world.files.find? host.access.boundary.root =
        some .directory) := by
  constructor
  · intro payloads
    -- The induction takes the last payload off, because the run before it decides what it meets.
    induction payloads using List.reverseRecOn with
    | nil => simpa using usable
    | append_singleton payloads last ih =>
      rw [Host.serve_append,
        dispatch_usable_iff (serve_linkFree linkFree payloads) noConsent last, ih]
      constructor
      · rintro ⟨unspoiled, kept⟩ ⟨earlier, payload, among, spoils⟩
        rcases List.prefix_concat_iff.mp among with whole | before
        · obtain ⟨rfl, rfl⟩ := List.append_singleton_inj.mp whole
          exact kept spoils
        · exact unspoiled ⟨earlier, payload, before, spoils⟩
      · intro unspoiled
        refine ⟨?_, fun spoils => unspoiled ⟨payloads, last, List.prefix_rfl, spoils⟩⟩
        rintro ⟨earlier, payload, among, spoils⟩
        exact unspoiled ⟨earlier, payload, among.trans (List.prefix_append _ _), spoils⟩
  · intro earlier later stands
    induction later using List.reverseRecOn with
    | nil => simpa using stands
    | append_singleton later last ih =>
      rw [← List.append_assoc, Host.serve_append]
      exact dispatch_directory (serve_linkFree linkFree _) noConsent last ih

/-- The call that writes a text at the root. -/
def rootPayload : Bytes :=
  Json.toBytes (.object [("args", .array [.string ".", .string "hi"]),
    ("method", .string "fs.writeText")])

/-- A script can put a file in the place of a missing root. -/
theorem missing_root_spoiled :
    boxHost.access.boundary.LinkFree Tree.empty ∧ Tree.empty.Usable ["box"] ∧
      ¬ (boxHost.serve ⟨{}, {}⟩ [rootPayload]).world.files.Usable ["box"] := by
  have linkFree : boxHost.access.boundary.LinkFree Tree.empty := by
    intro place target _
    cases place <;> simp [Tree.find?, Tree.empty]
  have usable := (root_usable_unless_written boxHost ⟨{}, {}⟩ rfl linkFree (.inl rfl)).1
    [rootPayload]
  refine ⟨linkFree, .inl rfl, usable.not.mpr fun unspoiled => unspoiled ?_⟩
  refine ⟨[], rootPayload, List.prefix_rfl, rfl, ⟨".", ?_, ?_⟩, .inl ⟨.null, ?_⟩⟩
  · decide +kernel
  · decide +kernel
  · rfl

end ScriptSandbox.Files
