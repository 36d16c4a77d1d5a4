import ScriptSandbox.Proofs.Files.Upkeep
import ScriptSandbox.Proofs.Text.Octets

/-!
# Listing, asking and reading agree

Three calls look at the same files: one lists a directory, one asks whether something is there, and
one reads a file. In a tidy tree they tell the same: the names that are listed are those that are
found, the directories among them are those that can be listed, and the sizes of the others are the
lengths of the texts that are read.
-/
namespace ScriptSandbox.Files

/-! ### Entries in tidy trees -/

namespace Tree.Tidy

variable {root place : Path} {tree : Tree} {names : List String} {name : String} {node : Node}
  {landing : Landing}

theorem entry_noLink (tidy : tree.Tidy root)
    (leads : locate tree true (root ++ names) = .ok (.node place .directory)) (name : String)
    (target : String) : tree.find? (place ++ [name]) ≠ some (.link target) := by
  obtain ⟨top, atRoot, rfl⟩ := tidy.place_eq leads
  rw [List.append_assoc]
  exact tidy.noLink top _ target atRoot

/-- The name of an entry is one that a call can ask for, and so is its path. -/
theorem entry_named (tidy : tree.Tidy root)
    (leads : locate tree true (root ++ names) = .ok (.node place .directory))
    (stands : tree.find? (place ++ [name]) = some node) :
    Path.Plain name ∧ Path.Fits name ∧
      byteLength (Path.text (root ++ names ++ [name])) < pathBound := by
  obtain ⟨top, atRoot, rfl⟩ := tidy.place_eq leads
  rw [List.append_assoc] at stands ⊢
  obtain ⟨named, bounded⟩ := tidy.named top _ node atRoot stands
  obtain ⟨plain, fits⟩ := named name (by simp)
  exact ⟨plain, fits, bounded⟩

/-- The path of an entry leads to what stands there, whether links are followed or not. -/
theorem locate_entry (tidy : tree.Tidy root)
    (leads : locate tree true (root ++ names) = .ok (.node place .directory))
    (stands : tree.find? (place ++ [name]) = some node) :
    locate tree true (root ++ names ++ [name]) = .ok (.node (place ++ [name]) node) := by
  obtain ⟨-, fits, bounded⟩ := tidy.entry_named leads stands
  exact (locate_entry_iff leads (.inr (tidy.entry_noLink leads name))).mpr
    ⟨fits, bounded, .node stands⟩

/-- Where the path of an entry leads to a node, this is the entry. -/
theorem stands_of_locate {found : Path} (tidy : tree.Tidy root)
    (leads : locate tree true (root ++ names) = .ok (.node place .directory))
    (ends : locate tree true (root ++ names ++ [name]) = .ok (.node found node)) :
    tree.find? (place ++ [name]) = some node := by
  obtain ⟨-, -, arrives⟩ :=
    (locate_entry_iff leads (.inr (tidy.entry_noLink leads name))).mp ends
  cases arrives with
  | node stands => exact stands

end Tree.Tidy

/-! ### What calls say about a path -/

theorem probe_eq_true_iff {tree : Tree} {path : Path} :
    tree.probe path = .ok true ↔ ∃ found node, locate tree true path = .ok (.node found node) := by
  unfold Tree.probe
  split
  next found => simp [found]
  next vacant => simp [vacant]
  next missing => simp [missing]
  next fault _ failed => simp [failed]

theorem list_isOk_iff {tree : Tree} {path : Path} :
    (∃ entries, tree.list path = .ok entries) ↔
      ∃ found, locate tree true path = .ok (.node found .directory) := by
  unfold Tree.list
  split
  next failed => simp [failed]
  next vacant => simp [vacant]
  next found => simp [found]
  next other found =>
    refine iff_of_false (by simp) fun ⟨_, same⟩ => other ?_
    exact (Landing.node.inj (Except.ok.inj (found.symm.trans same))).2

/-- A file that is read as a text is as long as the text. -/
theorem readText_length {tree : Tree} {path : Path} {text : String}
    (read : tree.readText path = .ok text) :
    ∃ found content, locate tree true path = .ok (.node found (.file content)) ∧
      content.length = byteLength text := by
  unfold Tree.readText at read
  split at read
  · cases read
  next content bytes =>
    split at read
    next letters decoded =>
      obtain rfl := Except.ok.inj read
      unfold Tree.readBytes at bytes
      split at bytes
      · cases bytes
      · cases bytes
      · cases bytes
      · cases bytes
      next found =>
        obtain rfl := Except.ok.inj bytes
        refine ⟨_, _, found, ?_⟩
        rw [Utf8.decode?_eq_some_iff.mp decoded, byteLength, Utf8.utf8ByteSize_ofList]
    · cases read

open Bridge

/-- What the calls in a state say about the entries that a listing of a directory shows. -/
structure Agrees (host : Host) (state : State) (directory : String) (entries : List EntryInfo) :
    Prop where
  /-- The names strictly increase in the order of their bytes. -/
  ordered : entries.Pairwise fun a b => Utf8.ofString a.name < Utf8.ofString b.name
  /-- What is listed is what a single plain name finds. -/
  listed_iff : ∀ name payload,
    host.fileRequest? state payload = some (.exists, Path.entryText directory name) →
    ((∃ entry ∈ entries, entry.name = name) ↔
      Path.Plain name ∧ (host.dispatch state payload).1 = .replied (.result (.boolean true)))
  directory_iff : ∀ entry ∈ entries, ∀ payload,
    host.fileRequest? state payload =
      some (.listDirectory, Path.entryText directory entry.name) →
    (entry.isDirectory = true ↔ Accepts host state payload)
  directory_size : ∀ entry ∈ entries, entry.isDirectory = true → entry.size = 0
  file_size : ∀ entry ∈ entries, entry.isDirectory = false → ∀ payload text,
    host.fileRequest? state payload = some (.readText, Path.entryText directory entry.name) →
    (host.dispatch state payload).1 = .replied (.result (.string text)) →
    entry.size = byteLength text

/-- In a tidy tree the calls agree about the entries of every directory. -/
theorem Lists.agrees {host : Host} {state : State} {payload : Bytes} {directory : String}
    {entries : List EntryInfo} (lists : Lists host state payload directory entries)
    (inside : ∀ path, (host.access.boundary.resolve directory .listDirectory).outcome = .ok path →
      host.access.boundary.root <+: path)
    (tidy : state.world.files.Tidy host.access.boundary.root) :
    Agrees host state directory entries := by
  obtain ⟨path, place, resolved, shows⟩ := lists.found
  replace inside := inside path resolved
  obtain ⟨names, rfl, -⟩ := resolve_below_root resolved inside
  -- A listed name is one that the path of its entry may hold.
  have entered {entry : EntryInfo} (member : entry ∈ entries) : ∃ node,
      state.world.files.find? (place ++ [entry.name]) = some node ∧
        entry = Tree.info entry.name node ∧ Path.Plain entry.name := by
    obtain ⟨node, stands, shown⟩ := (shows.mem_iff entry).mp member
    exact ⟨node, stands, shown, (tidy.entry_named shows.leads stands).1⟩
  constructor
  case ordered => exact shows.ordered.imp Utf8.ofString_lt
  case listed_iff =>
    intro name payload asks
    constructor
    · rintro ⟨entry, member, rfl⟩
      obtain ⟨node, stands, -, plain⟩ := entered member
      have found := probe_eq_true_iff.mpr ⟨_, _, tidy.locate_entry shows.leads stands⟩
      exact ⟨plain, (dispatch_observes_iff asks (resolve_entryText resolved inside plain _)
        rfl).mpr (.exists found)⟩
    · -- Only the text of a plain name leads to an entry of this directory.
      rintro ⟨plain, replied⟩
      cases (dispatch_observes_iff asks (resolve_entryText resolved inside plain _) rfl).mp
        replied with
      | «exists» probed =>
        obtain ⟨_, node, ends⟩ := probe_eq_true_iff.mp probed
        have stands := tidy.stands_of_locate shows.leads ends
        exact ⟨Tree.info name node, (shows.mem_iff _).mpr ⟨node, by simpa using stands, by simp⟩,
          by simp⟩
  case directory_iff =>
    intro entry member payload asks
    obtain ⟨node, stands, shown, plain⟩ := entered member
    have here := resolve_entryText resolved inside plain .listDirectory
    have leads := tidy.locate_entry shows.leads stands
    rw [shown, Tree.info_isDirectory_iff]
    constructor
    · rintro rfl
      obtain ⟨below, listed⟩ := list_isOk_iff.mpr ⟨_, leads⟩
      exact ⟨_, (dispatch_observes_iff asks here rfl).mpr (.listDirectory listed)⟩
    · rintro ⟨value, replied⟩
      cases (dispatch_observes_iff asks here rfl).mp replied with
      | listDirectory listed =>
        -- What is listed is where the path leads, and that is the entry itself.
        obtain ⟨_, leads'⟩ := list_isOk_iff.mp ⟨_, listed⟩
        exact (Landing.node.inj (Except.ok.inj (leads.symm.trans leads'))).2
  case directory_size =>
    intro entry member directory
    obtain ⟨node, -, shown, -⟩ := entered member
    rw [shown, Tree.info_isDirectory_iff] at directory
    rw [shown, directory]
    rfl
  case file_size =>
    intro entry member _ payload text asks replied
    obtain ⟨node, stands, shown, plain⟩ := entered member
    cases (dispatch_observes_iff asks (resolve_entryText resolved inside plain _) rfl).mp
      replied with
    | readText read =>
      obtain ⟨_, content, leads, length⟩ := readText_length read
      have file := tidy.stands_of_locate shows.leads leads
      obtain rfl := Option.some.inj (stands.symm.trans file)
      rw [shown, ← length]
      rfl

/-- Listing, asking and reading agree after every run of payloads that starts from a tidy tree, in
every directory in the root that can be listed then, under every text that names it. -/
theorem served_observers_agree {host : Host} {start : State}
    (unlinked : host.access.boundary.consent.isSome → start.world.files.Unlinked)
    (tidy : start.world.files.Tidy host.access.boundary.root) (payloads : List Bytes)
    {listing : Bytes} {directory : String} {entries : List EntryInfo}
    (lists : Lists host (host.serve start payloads) listing directory entries)
    (inside : ∀ path, (host.access.boundary.resolve directory .listDirectory).outcome = .ok path →
      host.access.boundary.root <+: path) :
    Agrees host (host.serve start payloads) directory entries :=
  lists.agrees inside (serve_tidy unlinked tidy payloads)

/-! ### A directory and a file -/

namespace ListedFolder

theorem tidy : (boxTree [1]).Tidy ["box"] := by
  have leads {top : Path} (found : locate (boxTree [1]) true ["box"] = .ok (.node top .directory)) :
      top = ["box"] := by
    have here : locate (boxTree [1]) true ["box"] = .ok (.node ["box"] .directory) := by rfl
    exact (Landing.node.inj (Except.ok.inj (found.symm.trans here))).1
  have below {names : List String} {node : Node}
      (stands : (boxTree [1]).find? (["box"] ++ names) = some node) :
      names = [] ∧ node = .directory := by
    simpa [boxTree_find?, eq_comm] using stands
  constructor
  case closed =>
    exact boxTree_closed [1]
  case noLink =>
    intro top names target found link
    obtain rfl := leads found
    cases (below link).2
  case named =>
    intro top names node found stands
    obtain rfl := leads found
    obtain ⟨rfl, -⟩ := below stands
    exact ⟨by simp, by decide⟩

def start : State := ⟨{ files := boxTree [1] }, {}⟩

/-- The calls that make a directory and write a file next to it. -/
def making : List Bytes :=
  [callPayload "fs.createDirectory" [.string "d"],
   callPayload "fs.writeText" [.string "a", .string "hi"]]

def listing : Bytes := callPayload "fs.listDirectory" [.string "d/.."]

def asking : Bytes := callPayload "fs.exists" [.string (Path.entryText "d/.." "d")]

def entries : List EntryInfo := [⟨"a", false, 2⟩, ⟨"d", true, 0⟩]

theorem listed : (boxHost.serve start making).world.files.list ["box"] = .ok entries := by
  have found : locate (boxHost.serve start making).world.files true ["box"] =
      .ok (.node ["box"] .directory) := by rfl
  simp only [Tree.list, found]
  rw [List.mergeSort_of_pairwise (by decide +kernel)]
  rfl

theorem asks : boxHost.fileRequest? (boxHost.serve start making) listing =
    some (.listDirectory, "d/..") := by decide +kernel

theorem resolved : (boxHost.access.boundary.resolve "d/.." .listDirectory).outcome = .ok ["box"] := by
  rfl

theorem lists : Lists boxHost (boxHost.serve start making) listing "d/.." entries where
  asks := asks
  answered := (dispatch_observes_iff asks resolved rfl).mpr (.listDirectory listed)

/-- The directory that is listed is found by its name. -/
theorem folder_found :
    Lists boxHost (boxHost.serve start making) listing "d/.." entries ∧
      (boxHost.dispatch (boxHost.serve start making) asking).1 =
        .replied (.result (.boolean true)) := by
  have agrees := served_observers_agree (by simp [boxHost]) tidy making lists
    fun path found => by
      obtain rfl := Except.ok.inj (found.symm.trans resolved)
      exact List.prefix_rfl
  exact ⟨lists, ((agrees.listed_iff "d" asking (by decide +kernel)).mp
    ⟨⟨"d", true, 0⟩, by decide, rfl⟩).2⟩

end ListedFolder

end ScriptSandbox.Files
