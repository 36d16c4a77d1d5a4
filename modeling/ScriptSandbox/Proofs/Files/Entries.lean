import ScriptSandbox.Proofs.Files.Listing
import ScriptSandbox.Proofs.Files.Storage

/-!
# Entries of directories

A call that lists a directory shows what stands in it by increasing name. The path text of an entry
is that of the directory with the name of the entry after a slash; it leads to where the entry
stands, also when the directory lies behind links.
-/
namespace ScriptSandbox.Files

/-! ### Names of entries -/

namespace Path

/-- A name that goes one step down as a part of a path text. -/
structure Plain (name : String) : Prop where
  named : name ∉ ["", ".", ".."]
  whole : '/' ∉ name.toList

/-- A name that a search takes. -/
structure Fits (name : String) : Prop where
  clean : '\x00' ∉ name.toList
  short : byteLength name ≤ maxName

/-- The text that names an entry of a directory. -/
def entryText (directory name : String) : String := directory ++ "/" ++ name

theorem parts_entryText (directory : String) {name : String} (plain : Plain name) :
    parts (entryText directory name) = parts directory ++ [name.toList] := by
  have single : name.toList.splitOn '/' = [name.toList] :=
    List.splitOnP_eq_singleton fun letter among => by
      simpa using fun separates : letter = '/' => plain.whole (separates ▸ among)
  rw [← single]
  simp [parts, entryText, List.splitOn, List.splitOnP_append_cons]

theorem leadsTo_entryText {start path : Path} {directory name : String} (plain : Plain name)
    (leads : LeadsTo start (parts directory) path) :
    LeadsTo start (parts (entryText directory name)) (path ++ [name]) := by
  rw [parts_entryText directory plain, leads.append_iff]
  have named : name.toList ∉ [[], ['.'], ['.', '.']] := by
    have given := plain.named
    simp only [List.mem_cons, List.not_mem_nil, or_false, not_or, ← String.toList_inj] at given ⊢
    exact given
  exact .down named (by simpa using LeadsTo.done)

end Path

/-- In the root the text of an entry resolves to the entry's path below that of its directory. -/
theorem resolve_entryText {boundary : Boundary} {directory name : String} {path : Path}
    {action : FileAction} (resolved : (boundary.resolve directory action).outcome = .ok path)
    (inside : boundary.root <+: path) (plain : Path.Plain name) (other : FileAction) :
    (boundary.resolve (Path.entryText directory name) other).outcome = .ok (path ++ [name]) := by
  obtain ⟨named, relative, leads, -⟩ :=
    (boundary.resolve_resolved directory action).allowed_iff.mp resolved
  refine (boundary.resolve_resolved _ other).allowed_iff.mpr
    ⟨?_, ?_, Path.leadsTo_entryText plain leads, .inl (inside.trans (List.prefix_append _ _))⟩
  · simp [Path.entryText, String.append_eq_empty_iff]
  · -- The text starts with that of the directory, which is not empty.
    obtain ⟨first, rest, letters⟩ : ∃ first rest, directory.toList = first :: rest :=
      List.exists_cons_of_ne_nil fun nothing => named (String.toList_eq_nil_iff.mp nothing)
    simpa [Path.isAbsolute, Path.entryText, letters] using relative

/-! ### Where entries are found -/

section

variable {tree : Tree} {followLast : Bool} {links : Nat} {directory place path : Path}
  {name : String} {landing : Landing}

/-- The last step of a search ends where it goes, unless it follows a link. -/
theorem reaches_last_iff
    (stops : followLast = false ∨ ∀ target, tree.find? (directory ++ [name]) ≠ some (.link target)) :
    Reaches tree followLast links directory [.down name] landing ↔
      byteLength name ≤ maxName ∧ Arrives tree (directory ++ [name]) landing := by
  constructor
  · intro reaches
    cases reaches with
    | vacant short free => exact ⟨short, .vacant rfl free⟩
    | file short stands => exact ⟨short, .node stands⟩
    | down short stands further =>
      -- No step is left behind the last one.
      cases further
      exact ⟨short, .node stands⟩
    | link short stands => exact ⟨short, .node stands⟩
    | through short stands followed =>
      rcases stops with unfollowed | noLink
      · simp [unfollowed] at followed
      · exact absurd stands (noLink _)
  · rintro ⟨short, arrives⟩
    cases arrives with
    | @node node stands =>
      cases node with
      | file content => exact .file short stands
      | directory => exact .down short stands .done
      | link target => exact .link short stands (stops.resolve_right fun noLink => noLink _ stands)
    | vacant ends free =>
      obtain ⟨rfl, rfl⟩ := List.append_singleton_inj.mp ends
      exact .vacant short free

/-- The path of an entry leads to where the entry stands, when that of its directory leads to the
directory. -/
theorem locate_entry_iff (leads : locate tree true path = .ok (.node place .directory))
    (stops : followLast = false ∨ ∀ target, tree.find? (place ++ [name]) ≠ some (.link target)) :
    locate tree followLast (path ++ [name]) = .ok landing ↔
      Path.Fits name ∧ byteLength (Path.text (path ++ [name])) < pathBound ∧
        Arrives tree (place ++ [name]) landing := by
  obtain ⟨clean, -, reaches⟩ := locate_eq_ok_iff.mp leads
  have whole : Reaches tree followLast maxLinks [] ((path ++ [name]).map .down) landing ↔
      byteLength name ≤ maxName ∧ Arrives tree (place ++ [name]) landing := by
    rw [List.map_append, List.map_singleton]
    -- The steps before the last one lead to one directory only, through links or not.
    constructor
    · intro found
      obtain ⟨other, _, _, before, last⟩ := found.split (List.cons_ne_nil _ _)
      obtain ⟨rfl, -⟩ := Landing.node.inj (before.unique reaches)
      exact (reaches_last_iff stops).mp last
    · intro last
      exact reaches.append (.inl (List.cons_ne_nil _ _)) ((reaches_last_iff stops).mpr last)
  have nul : (path ++ [name]).any (·.toList.contains '\x00') = false ↔ '\x00' ∉ name.toList := by
    rw [List.any_append, clean]
    simp
  rw [locate_eq_ok_iff, nul, whole]
  constructor
  · rintro ⟨clean, bounded, short, arrives⟩
    exact ⟨⟨clean, short⟩, bounded, arrives⟩
  · rintro ⟨⟨clean, short⟩, bounded, arrives⟩
    exact ⟨clean, bounded, short, arrives⟩

end

/-! ### Calls that list a directory -/

open Bridge

theorem entryJson_injective : Function.Injective entryJson := by
  rintro ⟨name, isDirectory, size⟩ ⟨name', isDirectory', size'⟩ same
  simp only [entryJson, Json.object.injEq, List.cons.injEq, Prod.mk.injEq, Json.boolean.injEq,
    Json.string.injEq, Json.int, Json.number.injEq, Json.Number.integer.injEq, Int.ofNat_inj, true_and,
    and_true] at same
  obtain ⟨rfl, rfl, rfl⟩ := same
  rfl

/-- Only where its text resolves to a path does an operation have a value. -/
theorem runFile_resolves {boundary : Boundary} {system : System} {tree : Tree} {action : FileAction}
    {call : Call} {requested : String} (named : pathArg call action = .ok requested) {value : Json}
    (answered : (runFile boundary system tree action call).answer = .value value) :
    ∃ path, (boundary.resolve requested action).outcome = .ok path := by
  cases resolved : (boundary.resolve requested action).outcome with
  | ok path => exact ⟨path, rfl⟩
  | error fault =>
    cases action <;>
      simp [runFile, named, fileOutcome_value_iff, Boundary.readText, Boundary.writeText,
        Boundary.listDirectory, Boundary.probe, Boundary.delete, Boundary.createDirectory,
        Boundary.perform_refused resolved] at answered

/-- A payload lists a directory and is answered with its entries. -/
structure Lists (host : Host) (state : State) (payload : Bytes) (directory : String)
    (entries : List EntryInfo) : Prop where
  asks : host.fileRequest? state payload = some (.listDirectory, directory)
  answered : (host.dispatch state payload).1 =
    .replied (.result (.array (entries.map entryJson)))

theorem Lists.found {host : Host} {state : State} {payload : Bytes} {directory : String}
    {entries : List EntryInfo} (lists : Lists host state payload directory entries) :
    ∃ path place, (host.access.boundary.resolve directory .listDirectory).outcome = .ok path ∧
      state.world.files.Shows path place entries := by
  obtain ⟨call, called, named⟩ := Host.fileRequest?_eq_some_iff.mp lists.asks
  obtain ⟨path, resolved⟩ :=
    runFile_resolves named ((Host.dispatch_result_iff called).mp lists.answered)
  have observed := (dispatch_observes_iff lists.asks resolved rfl).mp lists.answered
  generalize shown : Json.array (entries.map entryJson) = value at observed
  cases observed with
  | listDirectory listed =>
    obtain rfl := (List.map_injective_iff.mpr entryJson_injective) (Json.array.inj shown)
    obtain ⟨place, shows⟩ := Tree.list_shows listed
    exact ⟨path, place, resolved, shows⟩

end ScriptSandbox.Files
