import ScriptSandbox.Proofs.Files.Failure
import ScriptSandbox.Proofs.Text.Utf8

/-!
# What is written is read back

A text that was written to a file is what every call reads that names the same file, under whatever
text, and the other files are as they were. This lasts until a write to this very file is accepted
or breaks off, or a deletion of it or of a directory above it is accepted or changes the files before
it fails.
-/
namespace ScriptSandbox.Files

/-! ### Files behind links -/

/-- What is put into a file is read back by the same path, whatever links it goes through. -/
theorem readBytes_replaceContent {system : System} {before after : Tree} {path : Path}
    {content : Bytes} (written : before.replaceContent system path content = (.ok (), after)) :
    after.readBytes path = .ok content := by
  have replaced := replaceContent_replaced system before path content
  rw [written] at replaced
  cases replaced with
  | landed found writable put =>
    cases put with
    | done => rw [Tree.readBytes, locate_put found writable]

/-! ### Stored files -/

/-- A file stands at a path with its content, and directories lead to it. -/
structure Stored (path : Path) (content : Bytes) (tree : Tree) : Prop where
  file : tree.find? path = some (.file content)
  above : ∀ place, place <+: path → place ≠ path → tree.find? place = some .directory

namespace Stored

variable {path : Path} {content : Bytes} {tree : Tree} {text : String}

theorem clear (stored : Stored path content tree) : tree.Clear path := by
  intro place target onWay link
  by_cases whole : place = path
  · rw [whole, stored.file] at link
    cases link
  · rw [stored.above place onWay whole] at link
    cases link

theorem locate (stored : Stored path content tree) (searchable : path.Searchable)
    (followLast : Bool) : locate tree followLast path = .ok (.node path (.file content)) :=
  (locate_clear_iff stored.clear).mpr ⟨searchable, stored.above, .node stored.file⟩

theorem readText (stored : Stored path (Utf8.ofString text) tree) (searchable : path.Searchable) :
    tree.readText path = .ok text := by
  simp [Tree.readText, Tree.readBytes, stored.locate searchable, Utf8.ofString]

theorem probe (stored : Stored path content tree) (searchable : path.Searchable) :
    tree.probe path = .ok true := by
  simp [Tree.probe, stored.locate searchable]

end Stored

/-- A write that succeeds stores its content. -/
theorem writeFile_stored {system : System} {tree : Tree} {path : Path} {content : Bytes}
    (clear : tree.Clear path) (succeeded : (tree.writeFile system path content).1 = .ok ()) :
    path.Searchable ∧ Stored path content (tree.writeFile system path content).2 := by
  have written := writeFile_written clear system content
  generalize tree.writeFile system path content = result at written succeeded ⊢
  cases written with
  | failed | brokenOff => cases succeeded
  | @done between _ grown found free =>
    obtain ⟨searchable, directories, -⟩ := (locate_clear_iff (grown.clear clear)).mp found
    have below : path ≠ [] := by
      rintro rfl
      exact free (Tree.find?_nil _)
    refine ⟨searchable, between.find?_insert_self below _, fun place onWay other => ?_⟩
    rw [between.find?_insert_of_ne other, directories place onWay other]

/-! ### What calls observe -/

open Bridge

/-- What an operation that changes no files answers at a path. -/
inductive Observed (tree : Tree) (path : Path) : FileAction → Json → Prop where
  | readText {text : String} (read : tree.readText path = .ok text) :
      Observed tree path .readText (.string text)
  | listDirectory {entries : List EntryInfo} (listed : tree.list path = .ok entries) :
      Observed tree path .listDirectory (.array (entries.map entryJson))
  | exists {found : Bool} (probed : tree.probe path = .ok found) :
      Observed tree path .exists (.boolean found)

theorem runFile_observes_iff {boundary : Boundary} {system : System} {tree : Tree}
    {action : FileAction} {call : Call} {requested : String} {path : Path}
    (named : pathArg call action = .ok requested)
    (resolved : (boundary.resolve requested action).outcome = .ok path)
    (reads : action.changesFiles = false) {value : Json} :
    (runFile boundary system tree action call).answer = .value value ↔
      Observed tree path action value := by
  -- The operations differ in the kind of their results, and so in the JSON that is made of them.
  cases action with
  | writeText | delete | createDirectory => cases reads
  | readText =>
    simp only [runFile, named, fileOutcome_value_iff, Boundary.readText,
      (Boundary.perform_resolved resolved tree _).1, Boundary.lift_eq_ok_iff]
    constructor
    · rintro ⟨text, read, rfl⟩
      exact .readText read
    · intro observed
      cases observed with
      | readText read => exact ⟨_, read, rfl⟩
  | listDirectory =>
    simp only [runFile, named, fileOutcome_value_iff, Boundary.listDirectory,
      (Boundary.perform_resolved resolved tree _).1, Boundary.lift_eq_ok_iff]
    constructor
    · rintro ⟨entries, listed, rfl⟩
      exact .listDirectory listed
    · intro observed
      cases observed with
      | listDirectory listed => exact ⟨_, listed, rfl⟩
  | «exists» =>
    simp only [runFile, named, fileOutcome_value_iff, Boundary.probe,
      (Boundary.perform_resolved resolved tree _).1, Boundary.lift_eq_ok_iff]
    constructor
    · rintro ⟨found, probed, rfl⟩
      exact .exists probed
    · intro observed
      cases observed with
      | «exists» probed => exact ⟨_, probed, rfl⟩

/-- A call of an operation that changes no files is accepted with what the operation observes. -/
theorem dispatch_observes_iff {host : Host} {state : State} {payload : Bytes} {action : FileAction}
    {requested : String} {path : Path}
    (asks : host.fileRequest? state payload = some (action, requested))
    (resolved : (host.access.boundary.resolve requested action).outcome = .ok path)
    (reads : action.changesFiles = false) {value : Json} :
    (host.dispatch state payload).1 = .replied (.result value) ↔
      Observed state.world.files path action value := by
  obtain ⟨call, called, named⟩ := Host.fileRequest?_eq_some_iff.mp asks
  rw [Host.dispatch_result_iff called, runFile_observes_iff named resolved reads]

/-! ### Calls that disturb a file -/

/-- A write at a place that is accepted or broken off, or a deletion of what stands there or above it
that is accepted, or that fails when it has changed the files. -/
inductive Disturbs (host : Host) (before : State) (payload : Bytes) (place : Path) : Prop where
  | write {requested : String} (asks : host.fileRequest? before payload = some (.writeText, requested))
      (resolved : (host.access.boundary.resolve requested .writeText).outcome = .ok place)
      (opened : Accepts host before payload ∨ BreaksOff host before payload)
  | delete {requested : String} {above : Path}
      (asks : host.fileRequest? before payload = some (.delete, requested))
      (resolved : (host.access.boundary.resolve requested .delete).outcome = .ok above)
      (onWay : above <+: place)
      (effective : Accepts host before payload ∨
        (host.dispatch before payload).2.world.files ≠ before.world.files)

section

variable {host : Host} {before : State} {payload : Bytes} {place path : Path} {node : Node}
  {content : Bytes}

/-- A write that opens no file leaves whatever stands. -/
theorem write_keeps {requested : String}
    (linkFree : host.access.boundary.LinkFree before.world.files)
    (asks : host.fileRequest? before payload = some (.writeText, requested))
    (resolved : (host.access.boundary.resolve requested .writeText).outcome = .ok path)
    (undisturbed : ¬ Disturbs host before payload place)
    (stands : before.world.files.find? place = some node) :
    (host.dispatch before payload).2.world.files.find? place = some node := by
  have clear := Boundary.clear_of_permits linkFree (Boundary.permits_of_resolve resolved)
  obtain ⟨content, files, -, opened⟩ := dispatch_of_write asks resolved
  have confined := writeFile_confined clear (host.system before) content
  rw [files]
  refine Classical.byContradiction fun changed => ?_
  cases confined.touches place fun same => changed (same.trans stands) with
  | target =>
    rcases writeFile_cases clear (host.system before) content with ⟨-, same⟩ | ⟨wrote, -⟩
    · exact changed (same.trans stands)
    · exact undisturbed (.write asks resolved (opened.mpr wrote))
  | below deleting => cases deleting
  | above _ missing => simp [stands] at missing

/-- A call leaves alone what stands at a place that it does not disturb. -/
theorem dispatch_keeps (linkFree : host.access.boundary.LinkFree before.world.files)
    (undisturbed : ¬ Disturbs host before payload place)
    (stands : before.world.files.find? place = some node) :
    (host.dispatch before payload).2.world.files.find? place = some node := by
  cases dispatch_contained linkFree payload with
  | unchanged same => rw [same, stands]
  | @changed action requested path asks writes resolved _ confined =>
    cases action with
    | readText | listDirectory | «exists» => cases writes
    | writeText => exact write_keeps linkFree asks resolved undisturbed stands
    | createDirectory =>
      -- Where something stands, no directory is created.
      obtain ⟨call, called, named⟩ := Host.fileRequest?_eq_some_iff.mp asks
      rw [(dispatch_of_fileCall called).1]
      rcases runFile_createDirectory_kept linkFree named resolved place with same | ⟨missing, -⟩
      · rw [same, stands]
      · simp [stands] at missing
    | delete =>
      refine Classical.byContradiction fun changed => ?_
      have altered : (host.dispatch before payload).2.world.files ≠ before.world.files :=
        fun same => changed (same ▸ stands)
      cases confined.touches place fun same => changed (same.trans stands) with
      | target => exact undisturbed (.delete asks resolved List.prefix_rfl (.inr altered))
      | below _ onWay => exact undisturbed (.delete asks resolved onWay (.inr altered))
      | above _ missing => simp [stands] at missing

/-- No write opens a file where a directory stands. -/
theorem not_opens_directory (linkFree : host.access.boundary.LinkFree before.world.files)
    {requested : String} (asks : host.fileRequest? before payload = some (.writeText, requested))
    (resolved : (host.access.boundary.resolve requested .writeText).outcome = .ok place)
    (stands : before.world.files.find? place = some .directory) :
    ¬ (Accepts host before payload ∨ BreaksOff host before payload) := by
  have clear := Boundary.clear_of_permits linkFree (Boundary.permits_of_resolve resolved)
  obtain ⟨content, -, -, opened⟩ := dispatch_of_write asks resolved
  rw [opened]
  rcases writeFile_cases clear (host.system before) content with ⟨unopened, -⟩ | ⟨-, free, -⟩
  · exact unopened
  · exact absurd stands free

theorem Stored.dispatch (stored : Stored path content before.world.files)
    (linkFree : host.access.boundary.LinkFree before.world.files)
    (undisturbed : ¬ Disturbs host before payload path) :
    Stored path content (host.dispatch before payload).2.world.files where
  file := dispatch_keeps linkFree undisturbed stored.file
  above place onWay other := by
    have stands := stored.above place onWay other
    refine dispatch_keeps linkFree ?_ stands
    -- Above the file only a deletion disturbs, and it disturbs the file as well.
    rintro (⟨asks, resolved, opened⟩ | ⟨asks, resolved, above, effective⟩)
    · exact not_opens_directory linkFree asks resolved stands opened
    · exact undisturbed (.delete asks resolved (above.trans onWay) effective)

/-- Payloads of which none disturbs a place. -/
def Undisturbed (host : Host) (start : State) (payloads : List Bytes) (place : Path) : Prop :=
  ∀ earlier payload, earlier ++ [payload] <+: payloads →
    ¬ Disturbs host (host.serve start earlier) payload place

/-- What each payload keeps that does not disturb a place is kept by a run of them. -/
theorem serve_undisturbed (kept : Tree → Prop) {start : State}
    (linkFree : host.access.boundary.LinkFree start.world.files) (initial : kept start.world.files)
    (step : ∀ state payload, host.access.boundary.LinkFree state.world.files →
      ¬ Disturbs host state payload place → kept state.world.files →
      kept (host.dispatch state payload).2.world.files)
    {payloads : List Bytes} (undisturbed : Undisturbed host start payloads place) :
    kept (host.serve start payloads).world.files := by
  -- The induction takes the last payload off, because the run before it decides what it meets.
  induction payloads using List.reverseRecOn with
  | nil => exact initial
  | append_singleton payloads last ih =>
    have before := ih fun earlier payload among =>
      undisturbed earlier payload (among.trans (List.prefix_append _ _))
    rw [Host.serve_append]
    exact step _ last (serve_linkFree linkFree payloads)
      (undisturbed payloads last List.prefix_rfl) before

end

/-! ### Written texts -/

/-- The text that an argument writes: a string as it is, nothing for null, and the JSON text of any
other value. -/
inductive Writes : Json → String → Prop where
  | string (text : String) : Writes (.string text) text
  | null : Writes .null ""
  | other {value : Json} (notString : ∀ text, value ≠ .string text) (given : value ≠ .null) :
      Writes value value.text

theorem Writes.contentOf_eq {value : Json} {text : String} (writes : Writes value text) :
    contentOf value = text := by
  cases writes with
  | string | null => rfl
  | other notString given =>
    unfold contentOf
    split
    · exact absurd rfl (notString _)
    · exact absurd rfl given
    · rfl

/-- Every call that reads the file at a path gets the text, and every call that asks for it finds
it, under whatever text the call names the path. -/
structure Shown (host : Host) (state : State) (path : Path) (text : String) : Prop where
  read : ∀ payload requested, host.fileRequest? state payload = some (.readText, requested) →
    (host.access.boundary.resolve requested .readText).outcome = .ok path →
    (host.dispatch state payload).1 = .replied (.result (.string text))
  found : ∀ payload requested, host.fileRequest? state payload = some (.exists, requested) →
    (host.access.boundary.resolve requested .exists).outcome = .ok path →
    (host.dispatch state payload).1 = .replied (.result (.boolean true))

theorem Stored.shown {host : Host} {state : State} {path : Path} {text : String}
    (stored : Stored path (Utf8.ofString text) state.world.files) (searchable : path.Searchable) :
    Shown host state path text where
  read _ _ asks resolved :=
    (dispatch_observes_iff asks resolved rfl).mpr (.readText (stored.readText searchable))
  found _ _ asks resolved :=
    (dispatch_observes_iff asks resolved rfl).mpr (.exists (stored.probe searchable))

/-- A write changes no file but the one at its path. -/
theorem writeFile_file_iff {system : System} {tree : Tree} {path place : Path}
    (clear : tree.Clear path) (other : place ≠ path) (content written : Bytes) :
    (tree.writeFile system path written).2.find? place = some (.file content) ↔
      tree.find? place = some (.file content) := by
  by_cases same : (tree.writeFile system path written).2.find? place = tree.find? place
  · rw [same]
  · cases (writeFile_confined clear system written).touches place same with
    | target => exact absurd rfl other
    | below deleting => cases deleting
    | above _ missing created => simp [missing, created]

namespace WrittenNote

def before : State := ⟨{ files := boxTree [1] }, {}⟩

/-- The call that writes a list into a file, under a path with a detour. -/
def writing : Bytes := callPayload "fs.writeText" [.string "a/../note", .array [.null]]

def call : Call := ⟨"fs.writeText", [.string "a/../note", .array [.null]], false⟩

/-- A deletion of a directory whose name starts like that of the file. -/
def deleting : Bytes := callPayload "fs.delete" [.string "no"]

def reading : Bytes := callPayload "fs.readText" [.string "./note"]

theorem linkFree : boxHost.access.boundary.LinkFree before.world.files :=
  fun place target _ => boxTree_noLinks [1] place target

theorem undisturbed :
    Undisturbed boxHost (boxHost.dispatch before writing).2 [deleting] ["box", "note"] := by
  intro earlier payload among
  obtain ⟨rfl, rfl⟩ : earlier = [] ∧ payload = deleting := by
    rcases List.prefix_concat_iff.mp (show _ <+: [] ++ [deleting] from among) with whole | more
    · exact List.append_singleton_inj.mp whole
    · simp at more
  have asks : boxHost.fileRequest? (boxHost.dispatch before writing).2 deleting =
      some (.delete, "no") := by decide +kernel
  rintro (⟨writes, -, -⟩ | ⟨deletes, resolved, onWay, -⟩)
  · cases asks.symm.trans writes
  · cases asks.symm.trans deletes
    have beside : (boxHost.access.boundary.resolve "no" .delete).outcome = .ok ["box", "no"] := by rfl
    obtain rfl := Except.ok.inj (resolved.symm.trans beside)
    exact absurd onWay (by decide)

end WrittenNote

/-! ### A note that a failing deletion takes away -/

namespace BusyDirectory

/-- The directory before anything is in it. -/
def bare : Tree := (Tree.empty.insert ["box"] .directory).insert ["box", "d"] .directory

theorem bare_noLinks (place : Path) (target : String) : bare.find? place ≠ some (.link target) := by
  simp only [bare, Tree.find?_insert]
  split
  · simp
  · split
    · simp
    · split
      · simp
      next below _ _ => simp [Tree.find?, Tree.empty, below]

def start : State := ⟨{ files := bare }, {}⟩

def writing : Bytes := callPayload "fs.writeText" [.string "d/f", .string "hi"]

def asking : Bytes := callPayload "fs.exists" [.string "d/f"]

theorem write_eq : host.dispatch start writing =
    (.replied (.result .null), ⟨{ files := tree (Utf8.ofString "hi") }, { calls := 1 }⟩) := by
  rfl

end BusyDirectory

end ScriptSandbox.Files
