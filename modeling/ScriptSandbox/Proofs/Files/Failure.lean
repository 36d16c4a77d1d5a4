import ScriptSandbox.Proofs.Files.Reaching
import ScriptSandbox.Proofs.Files.Root

/-!
# What failing operations leave behind

A failing operation takes nothing away and replaces nothing, unless the operating system interrupts
it: it may refuse to go on when a part of a directory is gone already, or break off a write behind
the opening of its file. What a write or a creation of directories has made before it failed stays:
directories where nothing stood, each of them where a search for a beginning of the path ends. Links
may stand anywhere.
-/
namespace ScriptSandbox.Files

/-! ### Directories that are made on the way -/

/-- A directory that a beginning of a path leads to, through links where they stand. -/
def OnWay (path : Path) (tree : Tree) (place : Path) : Prop :=
  ∃ above, above <+: path ∧ locate tree true above = .ok (.node place .directory)

/-- Nothing is taken away, and all that comes is directories on the way along a path. -/
structure Extended (path : Path) (before after : Tree) : Prop where
  preserved : Preserved before after
  added : ∀ place node, after.find? place = some node → before.find? place = none →
    node = .directory ∧ OnWay path after place

namespace Extended

variable {system : System} {path longer : Path} {before between after tree made : Tree}

theorem refl (path : Path) (tree : Tree) : Extended path tree tree where
  preserved _ _ stands := stands
  added _ _ stands missing := absurd (stands.symm.trans missing) (by simp)

theorem mono (extended : Extended path before after) (onWay : path <+: longer) :
    Extended longer before after where
  preserved := extended.preserved
  added place node stands missing :=
    have ⟨directory, above, before, leads⟩ := extended.added place node stands missing
    ⟨directory, above, before.trans onWay, leads⟩

theorem trans (first : Extended path before between) (second : Extended path between after) :
    Extended path before after where
  preserved place node stands := second.preserved place node (first.preserved place node stands)
  added place node stands missing := by
    cases earlier : between.find? place with
    | none => exact second.added place node stands earlier
    | some stood =>
      -- What came first is kept, and so is the way to it.
      obtain ⟨rfl, above, onWay, leads⟩ := first.added place stood earlier missing
      have kept := second.preserved place _ earlier
      obtain rfl : .directory = node := Option.some.inj (kept.symm.trans stands)
      exact ⟨rfl, above, onWay, second.preserved.locate leads .node⟩

theorem of_makeDirectory (succeeded : tree.makeDirectory system path = .ok made) :
    Extended path tree made := by
  obtain ⟨directory, name, found, rfl⟩ := makeDirectory_made succeeded
  obtain ⟨clean, short, reaches⟩ := locate_eq_ok_iff.mp found
  have vacant := locate_eq_ok_iff.mpr ⟨clean, short, reaches.followed (by simp)⟩
  have preserved := Preserved.insert (reaches.free rfl) .directory
  refine ⟨preserved, fun place node stands missing => ?_⟩
  by_cases here : place = directory ++ [name]
  · subst here
    have stood := tree.find?_insert_self (List.append_ne_nil_of_right_ne_nil directory
      (List.cons_ne_nil name [])) .directory
    obtain rfl := Option.some.inj (stands.symm.trans stood)
    exact ⟨rfl, path, List.prefix_rfl, preserved.locate vacant (.filled stood)⟩
  · -- What stands elsewhere stood there before.
    rw [tree.find?_insert_of_ne here, missing] at stands
    cases stands

variable (system tree) in
theorem of_makeDirectories (names : List String) :
    Extended names.reverse tree (tree.makeDirectories system names).2 := by
  refine makeDirectories_keeps (Extended names.reverse tree) ?_ List.prefix_rfl (.refl _ _)
  intro before made above onWay extended created
  exact extended.trans ((of_makeDirectory created).mono onWay)

variable (system tree) in
/-- Where a directory cannot be created, at most those above it have come. -/
theorem of_makeDirectories_failed (name : String) (above : List String) (fault : Fault) :
    (tree.makeDirectories system (name :: above)).1 = .error fault →
      Extended above.reverse tree (tree.makeDirectories system (name :: above)).2 := by
  have extendedAbove := of_makeDirectories system tree above
  simp only [Tree.makeDirectories]
  split
  next => simp
  next =>
    -- The directory above was missing: what has come by then is what came on the way to it.
    split
    next stopped =>
      rw [stopped] at extendedAbove
      exact fun _ => extendedAbove
    next finished =>
      rw [finished] at extendedAbove
      split
      next => simp
      next =>
        rw [settle_tree]
        exact fun _ => extendedAbove
  next =>
    rw [settle_tree]
    exact fun _ => .refl _ _

theorem of_createDirectory_failed {fault : Fault}
    (failed : (tree.createDirectory system path).1 = .error fault) :
    Extended path.dropLast tree (tree.createDirectory system path).2 := by
  rcases path.eq_nil_or_concat with rfl | ⟨above, name, rfl⟩
  · exact .refl _ _
  · have extended := of_makeDirectories_failed system tree name above.reverse fault
    simp only [Tree.createDirectory, List.concat_eq_append, List.reverse_append, List.reverse_cons,
      List.reverse_nil, List.nil_append, List.singleton_append, List.dropLast_concat,
      List.reverse_reverse] at failed extended ⊢
    exact extended failed

end Extended

/-! ### Operations that fail -/

/-- What a failed action at a path leaves. The content is that of a write. -/
inductive Remains (system : System) (content : Bytes) (path : Path) (before : Tree) :
    FileAction → Tree → Prop where
  | unchanged {action : FileAction} : Remains system content path before action before
  | extended {action : FileAction} {after : Tree}
      (makes : action = .writeText ∨ action = .createDirectory)
      (extended : Extended path.dropLast before after) :
      Remains system content path before action after
  /-- The operating system refused one of the calls that take a directory away. -/
  | halfRemoved {directory : Path} {made later : List SystemCall} {call : SystemCall}
      {reason : String} (found : locate before false path = .ok (.node directory .directory))
      (whole : removal system before path directory .directory = made ++ call :: later)
      (refused : system.refuses call = some reason) :
      Remains system content path before .delete (made.foldl SystemCall.apply before)
  /-- The operating system broke off a write. -/
  | halfWritten {between : Tree} {landing : Landing} {written : Nat} {reason : String}
      (extended : Extended path.dropLast before between)
      (found : locate between true path = .ok landing) (writable : landing.Writable)
      (breaks : system.breaksOff landing.place = some (written, reason))
      (short : written < content.length) :
      Remains system content path before .writeText
        (between.insert landing.place (.file (content.take written)))

section Failing

variable {system : System} {tree : Tree} {path : Path} {content : Bytes}

theorem writeFile_remains {fault : Fault}
    (failed : (tree.writeFile system path content).1 = .error fault) :
    Remains system content path tree .writeText (tree.writeFile system path content).2 := by
  have created : Extended path.dropLast tree (tree.createDirectory system path.dropLast).2 := by
    simpa [Tree.createDirectory] using Extended.of_makeDirectories system tree path.dropLast.reverse
  have staged := writeFile_staged (Extended path.dropLast tree) (.refl _ _) created content
  generalize tree.writeFile system path content = result at staged failed ⊢
  cases staged with
  | failed extended => exact .extended (.inl rfl) extended
  | brokenOff extended found writable breaks short =>
    exact .halfWritten extended found writable breaks short
  | done => cases failed

theorem delete_remains {fault : Fault} (failed : (tree.delete system path).1 = .error fault) :
    Remains system content path tree .delete (tree.delete system path).2 := by
  have deleted := delete_deleted system tree path
  generalize tree.delete system path = result at deleted failed ⊢
  cases deleted with
  | nothing => exact .unchanged
  | @made place node found =>
    have attempted := attemptAll_attempted system tree (removal system tree path place node)
    generalize system.attemptAll tree _ = result at attempted failed ⊢
    cases attempted with
    | done => cases failed
    | @stopped made later call _ whole refused =>
      cases node with
      | directory => exact .halfRemoved found whole refused
      | file | link =>
        obtain rfl := made_eq_nil (by simp) whole
        exact .unchanged

end Failing

/-! ### Operations within the boundary -/

/-- What a failed action within the boundary leaves. -/
inductive Spared (boundary : Boundary) (system : System) (content : Bytes) (requested : String)
    (action : FileAction) (before after : Tree) : Prop where
  | unresolved (same : after = before)
  | resolved {path : Path} (resolved : (boundary.resolve requested action).outcome = .ok path)
      (remains : Remains system content path before action after)

namespace Boundary

variable {boundary : Boundary} {system : System} {tree : Tree} {requested : String} {content : Bytes}

/-- What holds of a failing operation at every path holds of it within the boundary. -/
theorem perform_spared {α : Type} {action : FileAction} {fault : ScriptSandbox.Fault}
    {operation : Path → Except ScriptSandbox.Fault α × Tree}
    (remains : ∀ path fault, (operation path).1 = .error fault →
      Remains system content path tree action (operation path).2)
    (failed : (boundary.perform tree requested action operation).outcome = .error fault) :
    Spared boundary system content requested action tree
      (boundary.perform tree requested action operation).tree := by
  cases resolved : (boundary.resolve requested action).outcome with
  | error cause => exact .unresolved (perform_refused resolved tree operation).2
  | ok path =>
    obtain ⟨outcome, after⟩ := perform_resolved resolved tree operation
    rw [outcome] at failed
    rw [after]
    exact .resolved resolved (remains path fault failed)

theorem lift_error {α : Type} {outcome : Except Fault α} {fault : ScriptSandbox.Fault}
    (failed : lift outcome = .error fault) : ∃ cause, outcome = .error cause := by
  cases outcome with
  | error cause => exact ⟨cause, rfl⟩
  | ok => cases failed

theorem writeText_spared {text : String} {fault : ScriptSandbox.Fault}
    (failed : (boundary.writeText system tree requested text).outcome = .error fault) :
    Spared boundary system (Utf8.ofString text) requested .writeText tree
      (boundary.writeText system tree requested text).tree := by
  refine perform_spared (fun path fault stopped => ?_) failed
  obtain ⟨cause, written⟩ := lift_error stopped
  exact writeFile_remains written

theorem createDirectory_spared {fault : ScriptSandbox.Fault}
    (failed : (boundary.createDirectory system tree requested).outcome = .error fault) :
    Spared boundary system content requested .createDirectory tree
      (boundary.createDirectory system tree requested).tree := by
  refine perform_spared (fun path fault stopped => ?_) failed
  obtain ⟨cause, created⟩ := lift_error stopped
  exact .extended (.inr rfl) (Extended.of_createDirectory_failed created)

theorem delete_spared {fault : ScriptSandbox.Fault}
    (failed : (boundary.delete system tree requested).outcome = .error fault) :
    Spared boundary system content requested .delete tree
      (boundary.delete system tree requested).tree := by
  refine perform_spared (fun path fault => ?_) failed
  split
  next => exact fun _ => .unchanged
  next =>
    intro stopped
    obtain ⟨cause, deleted⟩ := lift_error stopped
    exact delete_remains deleted

end Boundary

open Bridge

theorem fileOutcome_failed {α : Type} {toJson : α → Json} {effect : Effect α}
    (failed : ∀ value, (fileOutcome toJson effect).answer ≠ .value value) :
    ∃ fault, effect.outcome = .error fault := by
  cases outcome : effect.outcome with
  | error fault => exact ⟨fault, rfl⟩
  | ok value =>
    have answered : (fileOutcome toJson effect).answer = .value (toJson value) := by
      simp [fileOutcome, outcome, Except.map, Answer.ofExcept]
    exact absurd answered (failed _)

/-- The bytes that a call writes. -/
def writtenBytes (call : Call) : Bytes := Utf8.ofString (contentOf (call.arg 1))

theorem runFile_spared {boundary : Boundary} {system : System} {tree : Tree} {action : FileAction}
    {call : Call} {requested : String} (named : pathArg call action = .ok requested)
    (failed : ∀ value, (runFile boundary system tree action call).answer ≠ .value value) :
    Spared boundary system (writtenBytes call) requested action tree
      (runFile boundary system tree action call).files := by
  unfold runFile at failed ⊢
  simp only [named] at failed ⊢
  cases action with
  | writeText =>
    obtain ⟨fault, outcome⟩ := fileOutcome_failed failed
    exact Boundary.writeText_spared outcome
  | createDirectory =>
    obtain ⟨fault, outcome⟩ := fileOutcome_failed failed
    exact Boundary.createDirectory_spared outcome
  | delete =>
    obtain ⟨fault, outcome⟩ := fileOutcome_failed failed
    exact Boundary.delete_spared outcome
  | readText | listDirectory | «exists» =>
    -- These give back the files that they were given.
    obtain ⟨fault, outcome⟩ := fileOutcome_failed failed
    exact Boundary.perform_spared (fun _ _ _ => .unchanged) outcome

/-! ### Payloads -/

/-- What a payload leaves of the files that is answered with an error. -/
theorem dispatch_spared {host : Host} {before : State} {payload : Bytes} {message : String}
    (failed : (host.dispatch before payload).1 = .replied (.error message)) :
    (host.dispatch before payload).2.world.files = before.world.files ∨
      ∃ action call requested path, host.fileCall? before payload = some (action, call) ∧
        pathArg call action = .ok requested ∧
        (host.access.boundary.resolve requested action).outcome = .ok path ∧
        Remains (host.system before) (writtenBytes call) path before.world.files action
          (host.dispatch before payload).2.world.files := by
  -- Only a call of an operation on files that names a path can touch them.
  cases called : host.fileCall? before payload with
  | none => exact .inl (by rw [Host.dispatch_files, called])
  | some request =>
    obtain ⟨action, call⟩ := request
    obtain ⟨files, accepted⟩ := dispatch_of_fileCall called
    rw [files]
    cases named : pathArg call action with
    | error fault => exact .inl (by simp [runFile, named])
    | ok requested =>
      have unanswered (value : Json) :
          (runFile host.access.boundary (host.system before) before.world.files action call).answer ≠
            .value value := by
        intro answered
        obtain ⟨result, replied⟩ := accepted.mpr ⟨value, answered⟩
        rw [failed] at replied
        cases replied
      cases runFile_spared named unanswered with
      | unresolved same => exact .inl same
      | resolved resolved remains => exact .inr ⟨action, call, requested, _, rfl, named, resolved, remains⟩

/-- What stood at a place is not there as before, because the operating system interrupted the
operation that a payload asks for. -/
inductive Interrupted (host : Host) (before : State) (payload : Bytes) (place : Path) : Prop where
  /-- It stood in a directory that was being deleted, when one of the calls for it was refused. -/
  | removing {requested reason : String} {path directory : Path} {call : SystemCall}
      (asks : host.fileRequest? before payload = some (.delete, requested))
      (resolved : (host.access.boundary.resolve requested .delete).outcome = .ok path)
      (found : locate before.world.files false path = .ok (.node directory .directory))
      (within : directory <+: place) (differ : place ≠ directory)
      (needed : call ∈ removal (host.system before) before.world.files path directory .directory)
      (refused : (host.system before).refuses call = some reason)
      (gone : (host.dispatch before payload).2.world.files.find? place = none)
  /-- It is the file that a write was to fill, or no file was there, and the write broke off. -/
  | writing {requested reason : String} {path : Path} {call : Call} {written : Nat}
      (called : host.fileCall? before payload = some (.writeText, call))
      (named : pathArg call .writeText = .ok requested)
      (resolved : (host.access.boundary.resolve requested .writeText).outcome = .ok path)
      (stood : ∀ node, before.world.files.find? place = some node → ∃ old, node = .file old)
      (breaks : (host.system before).breaksOff place = some (written, reason))
      (short : written < (writtenBytes call).length)
      (leads : locate (host.dispatch before payload).2.world.files true path =
        .ok (.node place (.file ((writtenBytes call).take written))))

section Interruptions

variable {host : Host} {before : State} {payload : Bytes} {requested reason : String} {path : Path}

/-- What was taken away before a call was refused. -/
private theorem interrupted_removing {directory place : Path} {made later : List SystemCall}
    {call : SystemCall} (asks : host.fileRequest? before payload = some (.delete, requested))
    (resolved : (host.access.boundary.resolve requested .delete).outcome = .ok path)
    (found : locate before.world.files false path = .ok (.node directory .directory))
    (whole : removal (host.system before) before.world.files path directory .directory =
      made ++ call :: later)
    (refused : (host.system before).refuses call = some reason)
    (left : (host.dispatch before payload).2.world.files =
      made.foldl SystemCall.apply before.world.files)
    (taken : place ∈ removed made) : Interrupted host before payload place := by
  obtain ⟨within, differ⟩ := below_of_mem_made whole taken
  have below : place ≠ [] := by
    rintro rfl
    exact differ (List.prefix_nil.mp within).symm
  refine .removing asks resolved found within differ (by simp [whole]) refused ?_
  rw [left, find?_foldl_apply (made_removes ⟨_, whole.symm⟩) _ below, if_pos taken]

/-- A file whose write was broken off. -/
private theorem interrupted_writing {call : Call} {between : Tree} {landing : Landing}
    {written : Nat} (called : host.fileCall? before payload = some (.writeText, call))
    (named : pathArg call .writeText = .ok requested)
    (resolved : (host.access.boundary.resolve requested .writeText).outcome = .ok path)
    (extended : Extended path.dropLast before.world.files between)
    (found : locate between true path = .ok landing) (writable : landing.Writable)
    (breaks : (host.system before).breaksOff landing.place = some (written, reason))
    (short : written < (writtenBytes call).length)
    (left : (host.dispatch before payload).2.world.files =
      between.insert landing.place (.file ((writtenBytes call).take written))) :
    Interrupted host before payload landing.place := by
  refine .writing called named resolved (fun node stands => ?_) breaks short ?_
  · exact (locate_eq_ok_iff.mp found).2.2.writable_stood writable node
      (extended.preserved _ _ stands)
  · rw [left]
    exact locate_put found writable _

/-- What a payload that is answered with an error leaves of the files. -/
structure SparesRest (host : Host) (before : State) (payload : Bytes) (after : Tree) : Prop where
  kept : ∀ place node, before.world.files.find? place = some node →
    after.find? place = some node ∨ Interrupted host before payload place
  came : ∀ place node, after.find? place = some node → before.world.files.find? place = none →
    (node = .directory ∧ ∃ action requested path,
      host.fileRequest? before payload = some (action, requested) ∧
      (action = .writeText ∨ action = .createDirectory) ∧
      (host.access.boundary.resolve requested action).outcome = .ok path ∧
      OnWay path.dropLast after place) ∨ Interrupted host before payload place
  unchanged : (∀ requested, host.fileRequest? before payload ≠ some (.writeText, requested) ∧
      host.fileRequest? before payload ≠ some (.createDirectory, requested)) →
    (∀ place, ¬ Interrupted host before payload place) → after = before.world.files

namespace SparesRest

theorem same : SparesRest host before payload before.world.files where
  kept _ _ stands := .inl stands
  came _ _ stands missing := by simp [stands] at missing
  unchanged _ _ := rfl

theorem of_extended {action : FileAction} {after : Tree}
    (asks : host.fileRequest? before payload = some (action, requested))
    (makes : action = .writeText ∨ action = .createDirectory)
    (resolved : (host.access.boundary.resolve requested action).outcome = .ok path)
    (extended : Extended path.dropLast before.world.files after) :
    SparesRest host before payload after where
  kept place node stands := .inl (extended.preserved place node stands)
  came place node stands missing := by
    obtain ⟨directory, onWay⟩ := extended.added place node stands missing
    exact .inl ⟨directory, action, requested, path, asks, makes, resolved, onWay⟩
  unchanged other := by
    rcases makes with rfl | rfl
    · exact absurd asks (other requested).1
    · exact absurd asks (other requested).2

/-- Calls that take away no more than what the operating system interrupted. -/
theorem of_removed {made : List SystemCall} (removes : ∀ call ∈ made, call.Removes)
    (interrupted : ∀ place ∈ removed made, Interrupted host before payload place) :
    SparesRest host before payload (made.foldl SystemCall.apply before.world.files) := by
  have after {place : Path} (below : place ≠ []) :=
    find?_foldl_apply removes before.world.files below
  constructor
  case kept =>
    intro place node stands
    by_cases taken : place ∈ removed made
    · exact .inr (interrupted place taken)
    · left
      by_cases top : place = []
      · simpa [top] using stands
      · rw [after top, if_neg taken, stands]
  case came =>
    -- Nothing comes.
    intro place node stands missing
    by_cases top : place = []
    · simp [top] at missing
    · rw [after top, missing] at stands
      split at stands <;> cases stands
  case unchanged =>
    intro _ whole
    refine foldl_apply_of_removed_nil removes ?_ _
    exact List.eq_nil_iff_forall_not_mem.mpr fun place taken => whole place (interrupted place taken)

/-- A write that put a beginning of its text where the operating system interrupted it. -/
theorem of_put {between : Tree} {landing : Landing} {content : Bytes}
    (asks : host.fileRequest? before payload = some (.writeText, requested))
    (resolved : (host.access.boundary.resolve requested .writeText).outcome = .ok path)
    (extended : Extended path.dropLast before.world.files between)
    (found : locate between true path = .ok landing) (writable : landing.Writable)
    (interrupted : Interrupted host before payload landing.place) :
    SparesRest host before payload (between.insert landing.place (.file content)) where
  kept place node stands := by
    by_cases here : place = landing.place
    · exact .inr (here ▸ interrupted)
    · left
      rw [between.find?_insert_of_ne here, extended.preserved place node stands]
  came place node stands missing := by
    by_cases here : place = landing.place
    · exact .inr (here ▸ interrupted)
    · -- What has come elsewhere is a directory, and the way to it is as it was.
      rw [between.find?_insert_of_ne here] at stands
      obtain ⟨directory, above, onWay, leads⟩ := extended.added place node stands missing
      exact .inl ⟨directory, _, requested, path, asks, .inl rfl, resolved, above, onWay,
        (writable.framed found content).locate leads⟩
  unchanged other := absurd asks (other requested).1

end SparesRest

end Interruptions

namespace FailedWrite

/-- A directory in the root, with a file, and a link to it. -/
def tree : Tree :=
  (((Tree.empty.insert ["box"] .directory).insert ["box", "kept"] .directory).insert
    ["box", "kept", "a"] (.file [1])).insert ["box", "to"] (.link "kept")

def start : State := ⟨{ files := tree }, {}⟩

/-- A write below the link, to a name that no file may have. -/
def payload : Bytes :=
  Json.toBytes (.object [("args", .array [.string "to/new/\x00", .string "hi"]),
    ("method", .string "fs.writeText")])

theorem failed : (boxHost.dispatch start payload).1 =
    .replied (.error "IO error: file name contained an unexpected NUL byte") := by
  rfl

end FailedWrite

/-! ### A deletion that is refused half way -/

namespace BusyDirectory

def busy : String := "Device or resource busy (os error 16)"

/-- A system that does not let a directory in the root go. -/
def system : System where
  refuses call := if call = .removeDirectory ["box", "d"] then some busy else none

def host : Host := ⟨{}, ⟨⟨["box"], none⟩, .ofPolicy {} .offline, fun _ => system⟩⟩

/-- The directory, with a file in it. -/
def tree (content : Bytes) : Tree :=
  ((Tree.empty.insert ["box"] .directory).insert ["box", "d"] .directory).insert ["box", "d", "f"]
    (.file content)

def deleting : Bytes := callPayload "fs.delete" [.string "d"]

variable (content : Bytes)

theorem emptyingCalls_eq : emptyingCalls system (tree content) ["box", "d"] =
    [.openDirectory ["box", "d"], .unlink ["box", "d", "f"]] := by
  have entries : ((tree content).entries ["box", "d"]).map Prod.fst = ["f"] := by rfl
  have names : (tree content).names ["box", "d"] = ["f"] := by
    rw [Tree.names, entries, List.mergeSort_singleton]
  have height : (tree content).height = 3 := by rfl
  rw [emptyingCalls, height, Tree.emptying_succ, names]
  rfl

theorem delete_eq : (tree content).delete system ["box", "d"] =
    (.error (.denied busy), (tree content).erase ["box", "d", "f"]) := by
  have found : locate (tree content) false ["box", "d"] = .ok (.node ["box", "d"] .directory) := by rfl
  have looked : (tree content).delete system ["box", "d"] =
      (tree content).unlink system ["box", "d"] := by rfl
  rw [looked, unlink_eq found]
  simp only [removal, emptied, emptyingCalls_eq]
  rfl

/-- The deletion of the directory takes the file in it away, and fails at the directory itself. -/
theorem dispatch_eq (calls : Nat) :
    host.dispatch ⟨{ files := tree content }, { calls }⟩ deleting =
      (.replied (.error ("IO error: " ++ busy)),
        ⟨{ files := (tree content).erase ["box", "d", "f"] }, { calls := calls + 1 }⟩) := by
  have read : host.read false deleting =
      .ok (.builtin (.file .delete), ⟨"fs.delete", [.string "d"], false⟩) := by rfl
  have resolved : host.access.boundary.resolve "d" .delete = ⟨.ok ["box", "d"], []⟩ := by rfl
  have ran : host.access.boundary.delete system (tree content) "d" =
      ⟨.error (.files (.denied busy)), [], (tree content).erase ["box", "d", "f"]⟩ := by
    rw [Boundary.delete, Boundary.perform, resolved]
    simp only [delete_eq]
    rfl
  have outcome : runFile host.access.boundary system (tree content) .delete
      ⟨"fs.delete", [.string "d"], false⟩ =
        fileOutcome (fun _ => .null) (host.access.boundary.delete system (tree content) "d") := by rfl
  have granted : host.access.system calls = system := rfl
  unfold Host.dispatch
  simp only [read, Host.perform, Builtin.run]
  rw [granted, outcome, ran]
  rfl

end BusyDirectory

end ScriptSandbox.Files
