import ScriptSandbox.Proofs.Files.Entries

/-!
# What becomes of a listed entry that is deleted

A deletion looks through links before it takes a node away, and a listing does not. An entry that a
listing shows is therefore taken away by a deletion of its path when the operating system lets it go,
unless it is a link that leads nowhere: such a link is listed, and its deletion is refused. A
directory is emptied before it is looked for once more, so it stays when its path leads through
something below it.
-/
namespace ScriptSandbox.Files

/-! ### What is taken away -/

section Removal

variable {system : System} {tree : Tree} {path place other : Path} {node : Node}

theorem mem_removed_removal (member : other ∈ removed (removal system tree path place node)) :
    other = place ∨ (node = .directory ∧ place <+: other) := by
  cases node with
  | directory => exact .inr ⟨rfl, below_of_mem_removal member⟩
  | file | link => exact .inl (by simpa [removal, SystemCall.removed?] using member)

theorem mem_removed_removal_of_below (closed : tree.Closed) (below : place <+: other)
    (differ : other ≠ place) {stood : Node} (stands : tree.find? other = some stood) :
    other ∈ removed (removal system tree path place .directory) := by
  obtain ⟨names, rfl⟩ := below
  cases names with
  | nil => exact absurd (List.append_nil place) differ
  | cons name names =>
    unfold removal
    rw [removed_append]
    exact List.mem_append_left _ (Tree.mem_removed_emptying closed (tree.reach_height place) stands)

/-- A directory is taken away itself when its path leads to it once it is empty. -/
theorem place_mem_removed_iff (found : locate tree false path = .ok (.node place node)) :
    place ∈ removed (removal system tree path place node) ↔ (node = .directory →
      locate (emptied system tree place) false path = .ok (.node place .directory)) := by
  cases node with
  | file | link => simp [removal, SystemCall.removed?]
  | directory =>
    have inside : place ∉ removed (emptyingCalls system tree place) :=
      fun member => (below_of_mem_emptyingCalls member).2 rfl
    have kept : Preserved (emptied system tree place) tree :=
      fun _ _ => (emptied_shrunk system tree place).stood
    unfold removal
    rw [removed_append, List.mem_append, or_iff_right inside]
    rcases kept.locate_misses found with same | ⟨directory, name, free⟩ | lost
    · simp [same, SystemCall.removed?]
    · simp [free]
    · simp [lost]

theorem find?_made_of_outside {made : List SystemCall}
    (onWay : made <+: removal system tree path place node) (differ : other ≠ place)
    (outside : node = .directory → ¬ place <+: other) :
    (made.foldl SystemCall.apply tree).find? other = tree.find? other := by
  by_cases top : other = []
  · simp [top]
  · rw [find?_foldl_apply (made_removes onWay) tree top]
    refine if_neg fun member => ?_
    rcases mem_removed_removal ((onWay.filterMap _).subset member) with same | ⟨directory, beneath⟩
    · exact differ same
    · exact outside directory beneath

end Removal

/-! ### Calls that delete an entry -/

open Bridge

/-- What a payload does that deletes what its text resolves to, when this is not the root. -/
theorem dispatch_delete {host : Host} {before : State} {payload : Bytes} {requested : String}
    (asks : host.fileRequest? before payload = some (.delete, requested)) {path : Path}
    (resolved : (host.access.boundary.resolve requested .delete).outcome = .ok path)
    (below : path ≠ host.access.boundary.root) :
    let deleted := before.world.files.delete (host.system before) path
    (Accepts host before payload ↔ deleted.1 = .ok ()) ∧
      (host.dispatch before payload).2.world.files = deleted.2 := by
  intro deleted
  obtain ⟨call, called, named⟩ := Host.fileRequest?_eq_some_iff.mp asks
  obtain ⟨files, accepted⟩ := dispatch_of_fileCall called
  obtain ⟨outcome, after⟩ : (host.access.boundary.delete (host.system before) before.world.files
        requested).outcome = Boundary.lift deleted.1 ∧
      (host.access.boundary.delete (host.system before) before.world.files requested).tree =
        deleted.2 := by
    have performed : (host.access.boundary.delete (host.system before) before.world.files
          requested).outcome = _ ∧
        (host.access.boundary.delete (host.system before) before.world.files requested).tree = _ :=
      Boundary.perform_resolved resolved before.world.files _
    simpa only [if_neg below] using performed
  constructor
  · simp only [accepted, runFile, named, fileOutcome_value_iff, outcome, Boundary.lift_eq_ok_iff]
    constructor
    · rintro ⟨_, ⟨⟩, succeeded, -⟩
      exact succeeded
    · intro succeeded
      exact ⟨.null, (), succeeded, rfl⟩
  · rw [files]
    simp only [runFile, named, fileOutcome, after]

/-- What a payload does that deletes an entry of a directory, where its path leads to the entry. -/
structure DeletesEntry (host : Host) (before : State) (payload : Bytes) (path place : Path)
    (node : Node) : Prop where
  /-- A link that leads nowhere is refused, and otherwise only what the operating system refuses. -/
  accepted_iff : Accepts host before payload ↔
    (∀ target, node = .link target →
      ∃ found other, locate before.world.files true path = .ok (.node found other)) ∧
    ∀ call ∈ removal (host.system before) before.world.files path place node,
      (host.system before).refuses call = none
  /-- An entry whose deletion is refused stays, and all other nodes stay when it is no directory. -/
  refused : ¬ Accepts host before payload →
    (host.dispatch before payload).2.world.files.find? place = some node ∧
      (node ≠ .directory → (host.dispatch before payload).2.world.files = before.world.files)
  /-- Nothing else changes but what is below a directory. -/
  others : ∀ other, other ≠ place → (node = .directory → ¬ place <+: other) →
    (host.dispatch before payload).2.world.files.find? other = before.world.files.find? other
  below : Accepts host before payload → node = .directory → ∀ other, place <+: other →
    other ≠ place → (host.dispatch before payload).2.world.files.find? other = none
  /-- A directory stays where its path leads to it no longer once it is empty. -/
  gone_iff : Accepts host before payload →
    ((host.dispatch before payload).2.world.files.find? place = none ↔ (node = .directory →
      locate (emptied (host.system before) before.world.files place) false path =
        .ok (.node place .directory)))

section

variable {host : Host} {before : State} {payload : Bytes} {path place : Path} {node : Node}

/-- A deletion whose calls are all granted. -/
theorem DeletesEntry.of_granted (closed : before.world.files.Closed)
    (accepts : Accepts host before payload)
    (files : (host.dispatch before payload).2.world.files =
      (removal (host.system before) before.world.files path place node).foldl SystemCall.apply
        before.world.files)
    (leads : ∃ found other, locate before.world.files true path = .ok (.node found other))
    (granted : ∀ call ∈ removal (host.system before) before.world.files path place node,
      (host.system before).refuses call = none)
    (found : locate before.world.files false path = .ok (.node place node))
    (stands : before.world.files.find? place = some node) (top : place ≠ []) :
    DeletesEntry host before payload path place node := by
  have removes := @removal_removes (host.system before) before.world.files path place node
  have after {other : Path} (below : other ≠ []) :=
    find?_foldl_apply removes before.world.files below
  constructor
  case accepted_iff => exact iff_of_true accepts ⟨fun _ _ => leads, granted⟩
  case refused => exact fun refused => absurd accepts refused
  case others =>
    intro other differ outside
    rw [files, find?_made_of_outside List.prefix_rfl differ outside]
  case below =>
    rintro - rfl other beneath differ
    have below : other ≠ [] := by
      rintro rfl
      exact differ (List.prefix_nil.mp beneath).symm
    rw [files, after below]
    split
    next => rfl
    next left =>
      refine Option.eq_none_iff_forall_ne_some.mpr fun stood stands => left ?_
      exact mem_removed_removal_of_below closed beneath differ stands
  case gone_iff =>
    intro _
    rw [files, after top, ← place_mem_removed_iff found]
    simp [stands]

/-- A deletion that the operating system stops. -/
theorem DeletesEntry.of_stopped {made later : List SystemCall} {call : SystemCall} {reason : String}
    (denied : ¬ Accepts host before payload)
    (files : (host.dispatch before payload).2.world.files =
      made.foldl SystemCall.apply before.world.files)
    (whole : removal (host.system before) before.world.files path place node = made ++ call :: later)
    (refused : (host.system before).refuses call = some reason)
    (stands : before.world.files.find? place = some node) (top : place ≠ []) :
    DeletesEntry host before payload path place node := by
  have onWay : made <+: removal (host.system before) before.world.files path place node :=
    ⟨_, whole.symm⟩
  constructor
  case accepted_iff =>
    refine iff_of_false denied fun ⟨_, granted⟩ => ?_
    rw [granted call (by simp [whole])] at refused
    cases refused
  case refused =>
    refine fun _ => ⟨?_, fun other => ?_⟩
    · rw [files, find?_foldl_apply (made_removes onWay) _ top, if_neg (not_mem_removed_made whole),
        stands]
    · rw [files, made_eq_nil other whole, List.foldl_nil]
  case others =>
    intro other differ outside
    rw [files, find?_made_of_outside onWay differ outside]
  case below => exact fun accepts => absurd accepts denied
  case gone_iff => exact fun accepts => absurd accepts denied

/-- A deletion of a link that leads nowhere. -/
theorem DeletesEntry.of_lost {target : String} (denied : ¬ Accepts host before payload)
    (files : (host.dispatch before payload).2.world.files = before.world.files)
    (lost : ¬ ∃ found other, locate before.world.files true path = .ok (.node found other))
    (stands : before.world.files.find? place = some (.link target)) :
    DeletesEntry host before payload path place (.link target) where
  accepted_iff := iff_of_false denied fun leads => lost (leads.1 target rfl)
  refused _ := ⟨by rw [files, stands], fun _ => files⟩
  others _ _ _ := by rw [files]
  below accepts := absurd accepts denied
  gone_iff accepts := absurd accepts denied

theorem deletesEntry_of_found {requested : String} (closed : before.world.files.Closed)
    (asks : host.fileRequest? before payload = some (.delete, requested))
    (resolved : (host.access.boundary.resolve requested .delete).outcome = .ok path)
    (below : path ≠ host.access.boundary.root)
    (stands : before.world.files.find? place = some node) (top : place ≠ [])
    (found : ∀ followLast, (followLast = false ∨ ∀ target, node ≠ .link target) →
      locate before.world.files followLast path = .ok (.node place node)) :
    DeletesEntry host before payload path place node := by
  obtain ⟨accepted, files⟩ := dispatch_delete asks resolved below
  have itself := found false (.inl rfl)
  by_cases leads : ∃ found other, locate before.world.files true path = .ok (.node found other)
  · have deletes : before.world.files.delete (host.system before) path =
        (host.system before).attemptAll before.world.files
          (removal (host.system before) before.world.files path place node) := by
      obtain ⟨_, _, ends⟩ := leads
      rw [← unlink_eq itself]
      simp only [Tree.delete, ends]
    rw [deletes] at accepted files
    have attempted := attemptAll_attempted (host.system before) before.world.files
      (removal (host.system before) before.world.files path place node)
    generalize (host.system before).attemptAll before.world.files _ = result at *
    cases attempted with
    | done granted => exact .of_granted closed (accepted.mpr rfl) files leads granted itself stands top
    | stopped whole refused =>
      exact .of_stopped (fun accepts => nomatch accepted.mp accepts) files whole refused stands top
  · -- Only through a link can the path lead nowhere.
    obtain ⟨target, rfl⟩ : ∃ target, node = .link target := by
      refine Classical.byContradiction fun noLink => leads ⟨_, _, found true (.inr ?_)⟩
      exact fun target link => noLink ⟨target, link⟩
    obtain ⟨fault, deletes⟩ : ∃ fault, before.world.files.delete (host.system before) path =
        (.error fault, before.world.files) := by
      unfold Tree.delete
      split
      next => exact ⟨_, rfl⟩
      next => exact ⟨_, rfl⟩
      next ends => exact absurd ⟨_, _, ends⟩ leads
    rw [deletes] at accepted files
    exact .of_lost (fun accepts => nomatch accepted.mp accepts) files leads stands

/-- An entry is gone where no link stands on the way to it. -/
theorem DeletesEntry.gone (deletes : DeletesEntry host before payload path path node)
    (clear : before.world.files.Clear path)
    (found : locate before.world.files false path = .ok (.node path node))
    (accepted : Accepts host before payload) :
    (host.dispatch before payload).2.world.files.find? path = none := by
  -- Emptying the directory changes nothing on the way to it, so its path still leads there.
  have agree : Tree.AgreeTo path before.world.files
      (emptied (host.system before) before.world.files path) := by
    intro place onWay
    rcases emptied_shrunk (host.system before) before.world.files path place with same | ⟨below, gone⟩
    · exact same.symm
    · by_cases top : place = []
      · simp [top]
      · obtain rfl := onWay.eq_of_length_le below.length_le
        rw [emptied, find?_foldl_apply emptyingCalls_removes _ top] at gone ⊢
        rw [if_neg fun member => (below_of_mem_emptyingCalls member).2 rfl]
  refine (deletes.gone_iff accepted).mpr ?_
  rintro rfl
  rw [locate, ← locateFor_congr (.look false) agree clear]
  exact found

end

/-- An entry that a listing shows is deleted by the path that its name gives it, unless it is a link
that leads nowhere. -/
theorem listed_entries_deleted {host : Host} {state : State} {listing deletion : Bytes}
    {directory : String} {entries : List EntryInfo} {entry : EntryInfo}
    (noConsent : host.access.boundary.consent = none) (closed : state.world.files.Closed)
    (lists : Lists host state listing directory entries) (member : entry ∈ entries)
    (plain : Path.Plain entry.name) (fits : Path.Fits entry.name)
    (bounded : ∀ path, (host.access.boundary.resolve directory .listDirectory).outcome = .ok path →
      byteLength (Path.text (path ++ [entry.name])) < pathBound)
    (deletes : host.fileRequest? state deletion =
      some (.delete, Path.entryText directory entry.name)) :
    ∃ path place node,
      (host.access.boundary.resolve directory .listDirectory).outcome = .ok path ∧
      locate state.world.files true path = .ok (.node place .directory) ∧
      state.world.files.find? (place ++ [entry.name]) = some node ∧
      entry = Tree.info entry.name node ∧
      DeletesEntry host state deletion (path ++ [entry.name]) (place ++ [entry.name]) node := by
  obtain ⟨path, place, resolved, shows⟩ := lists.found
  obtain ⟨node, stands, shown⟩ := (shows.mem_iff entry).mp member
  have inside := (Boundary.permits_of_resolve resolved).within noConsent
  -- The entry's path is longer than that of its directory, which is in the root.
  have below : path ++ [entry.name] ≠ host.access.boundary.root := by
    intro same
    have shorter := inside.length_le
    rw [← same, List.length_append, List.length_singleton] at shorter
    omega
  refine ⟨path, place, node, resolved, shows.leads, stands, shown, ?_⟩
  refine deletesEntry_of_found closed deletes (resolve_entryText resolved inside plain .delete) below
    stands (by simp) fun followLast stops => ?_
  exact (locate_entry_iff shows.leads (by simpa [stands] using stops)).mpr
    ⟨fits, bounded path resolved, .node stands⟩

/-! ### Links that are listed -/

namespace ListedLinks

/-- A link to a file outside the root, and one that leads nowhere. -/
def tree : Tree :=
  ((boxTree [1]).insert ["box", "out"] (.link "../secret")).insert ["box", "lost"] (.link "nowhere")

theorem closed : tree.Closed := by
  have out : ((boxTree [1]).insert (["box"] ++ ["out"]) (.link "../secret")).Closed :=
    (boxTree_closed [1]).insert rfl (by decide) _
  have lost : (Tree.insert _ (["box"] ++ ["lost"]) (.link "nowhere")).Closed :=
    out.insert rfl (by decide) _
  exact lost

def state : State := ⟨{ files := tree }, {}⟩

def listing : Bytes := callPayload "fs.listDirectory" [.string "."]

def deleting (name : String) : Bytes := callPayload "fs.delete" [.string (Path.entryText "." name)]

def entries : List EntryInfo := [⟨"lost", false, 7⟩, ⟨"out", false, 9⟩]

theorem listed : tree.list ["box"] = .ok entries := by
  have found : locate tree true ["box"] = .ok (.node ["box"] .directory) := by rfl
  simp only [Tree.list, found]
  rw [List.mergeSort_of_pairwise (by decide +kernel)]
  rfl

theorem asks : boxHost.fileRequest? state listing = some (.listDirectory, ".") := by decide +kernel

theorem resolved : (boxHost.access.boundary.resolve "." .listDirectory).outcome = .ok ["box"] := by
  rfl

theorem placed {path place : Path}
    (found : (boxHost.access.boundary.resolve "." .listDirectory).outcome = .ok path)
    (leads : locate state.world.files true path = .ok (.node place .directory)) :
    path = ["box"] ∧ place = ["box"] := by
  obtain rfl := Except.ok.inj (found.symm.trans resolved)
  have here : locate state.world.files true ["box"] = .ok (.node ["box"] .directory) := by rfl
  exact ⟨rfl, (Landing.node.inj (Except.ok.inj (leads.symm.trans here))).1⟩

theorem lists : Lists boxHost state listing "." entries where
  asks := asks
  answered := (dispatch_observes_iff asks resolved rfl).mpr (.listDirectory listed)

theorem bounded {name : String} (short : byteLength (Path.text ["box", name]) < pathBound)
    (path : Path) (found : (boxHost.access.boundary.resolve "." .listDirectory).outcome = .ok path) :
    byteLength (Path.text (path ++ [name])) < pathBound := by
  obtain rfl := Except.ok.inj (found.symm.trans resolved)
  exact short

/-- Both links are listed. The one to the file is taken away and the file stays; the other one is
refused and stays. -/
theorem lost_link_refused :
    Lists boxHost state listing "." entries ∧
      ¬ Accepts boxHost state (deleting "lost") ∧
      (boxHost.dispatch state (deleting "lost")).2.world.files = tree ∧
      Accepts boxHost state (deleting "out") ∧
      (boxHost.dispatch state (deleting "out")).2.world.files.find? ["secret"] =
        some (.file [1]) := by
  have lostAsks : boxHost.fileRequest? state (deleting "lost") = some (.delete, "./lost") := by
    decide +kernel
  have outAsks : boxHost.fileRequest? state (deleting "out") = some (.delete, "./out") := by
    decide +kernel
  obtain ⟨path, place, node, found, leads, stands, -, lost⟩ :=
    listed_entries_deleted rfl closed lists (List.mem_cons_self : ⟨"lost", false, 7⟩ ∈ entries)
      ⟨by decide, by decide⟩ ⟨by decide, by decide⟩ (bounded (by decide)) lostAsks
  obtain ⟨rfl, rfl⟩ := placed found leads
  obtain ⟨path, place, node', found', leads', stands', -, out⟩ :=
    listed_entries_deleted rfl closed lists
      (List.mem_cons_of_mem _ List.mem_cons_self : ⟨"out", false, 9⟩ ∈ entries)
      ⟨by decide, by decide⟩ ⟨by decide, by decide⟩ (bounded (by decide)) outAsks
  obtain ⟨rfl, rfl⟩ := placed found' leads'
  have link : state.world.files.find? ["box", "lost"] = some (.link "nowhere") := by decide +kernel
  have link' : state.world.files.find? ["box", "out"] = some (.link "../secret") := by decide +kernel
  obtain rfl := Option.some.inj (stands.symm.trans link)
  obtain rfl := Option.some.inj (stands'.symm.trans link')
  have refused : ¬ Accepts boxHost state (deleting "lost") := by
    intro accepted
    obtain ⟨_, _, leads⟩ := (lost.accepted_iff.mp accepted).1 "nowhere" rfl
    have nowhere : locate state.world.files true ["box", "lost"] = .ok (.vacant ["box"] "nowhere") := by
      rfl
    cases leads.symm.trans nowhere
  have accepted : Accepts boxHost state (deleting "out") := by
    refine out.accepted_iff.mpr ⟨fun target same => ⟨["secret"], .file [1], ?_⟩, fun _ _ => rfl⟩
    rfl
  refine ⟨lists, refused, (lost.refused refused).2 (by simp), accepted, ?_⟩
  rw [out.others ["secret"] (by decide) (by simp)]
  rfl

end ListedLinks

end ScriptSandbox.Files
