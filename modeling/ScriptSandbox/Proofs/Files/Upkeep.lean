import ScriptSandbox.Proofs.Files.Removal

/-!
# Trees that calls keep tidy

A tree is tidy when everything in it stands in a directory, and when no link stands below the root
of the sandbox, where every name and every path is one that a call can ask for. No payload makes a
tidy tree untidy. Links may stand above the root as long as nobody may consent to paths outside it.
-/
namespace ScriptSandbox.Files

/-! ### Closed trees -/

/-- What a search says about the tree at its end. -/
def Landing.Stands (tree : Tree) : Landing → Prop
  | .node place stood => tree.find? place = some stood
  | .vacant directory name =>
    tree.find? directory = some .directory ∧ tree.find? (directory ++ [name]) = none

theorem Reaches.stands {tree : Tree} {followLast : Bool} {links : Nat} {directory : Path}
    {steps : List Move} {landing : Landing}
    (reaches : Reaches tree followLast links directory steps landing) (closed : tree.Closed)
    (start : tree.find? directory = some .directory) : landing.Stands tree := by
  induction reaches with
  | done => exact start
  | up _ ih => exact ih (closed.dropLast start)
  | stay _ ih => exact ih start
  | vacant _ free => exact ⟨start, free⟩
  | file _ stands | link _ stands => exact stands
  | down _ stands _ ih => exact ih stands
  | through _ _ _ _ ih =>
    -- A link is followed from its own directory or from the top.
    refine ih ?_
    split
    · exact Tree.find?_nil _
    · exact start

theorem locate_stands {tree : Tree} {followLast : Bool} {path : Path} {landing : Landing}
    (closed : tree.Closed) (found : locate tree followLast path = .ok landing) :
    landing.Stands tree :=
  (locate_eq_ok_iff.mp found).2.2.stands closed (Tree.find?_nil tree)

/-! ### Beginnings of paths -/

namespace Path

theorem byteLength_text_le (path more : Path) :
    byteLength (text path) ≤ byteLength (text (path ++ more)) := by
  have joined : (String.intercalate "/" path).utf8ByteSize ≤
      (String.intercalate "/" (path ++ more)).utf8ByteSize := by
    induction path with
    | nil => simp
    | cons name path ih =>
      cases path with
      | nil =>
        cases more with
        | nil => simp
        | cons => simp [String.intercalate_cons_cons, Nat.add_assoc]
      | cons => simpa [String.intercalate_cons_cons] using ih
  simpa [byteLength, text] using joined

end Path

/-- A path that leads somewhere has a beginning that leads to a directory, from where the other names
lead on. -/
theorem locate_split {tree : Tree} {followLast : Bool} {path more : Path} {landing : Landing}
    (found : locate tree followLast (path ++ more) = .ok landing) (further : more ≠ []) :
    ∃ place left, locate tree true path = .ok (.node place .directory) ∧
      Reaches tree followLast left place (more.map .down) landing := by
  obtain ⟨clean, bounded, reaches⟩ := locate_eq_ok_iff.mp found
  rw [List.map_append] at reaches
  obtain ⟨place, left, -, before, after⟩ := reaches.split (by simpa using further)
  rw [List.any_append, Bool.or_eq_false_iff] at clean
  exact ⟨place, left, locate_eq_ok_iff.mpr
    ⟨clean.1, (Path.byteLength_text_le path more).trans_lt bounded, before⟩, after⟩

namespace Path

/-- No part holds a slash. -/
theorem parts_whole (text : String) : ∀ part ∈ parts text, '/' ∉ part := by
  unfold parts List.splitOn
  induction text.toList with
  | nil => simp
  | cons letter letters ih =>
    rw [List.splitOnP_cons_eq_if_modifyHead]
    split
    · simpa using ih
    next other =>
      obtain ⟨first, rest, split⟩ := List.exists_cons_of_ne_nil
        (List.splitOnP_ne_nil (· == '/') letters)
      rw [split] at ih ⊢
      have differ : '/' ≠ letter := fun same => other (beq_iff_eq.mpr same.symm)
      simpa [differ] using ih

/-- Parts leave a beginning of the path that they lead away from, and put plain names behind it. -/
theorem LeadsTo.plain {start path : Path} {among : List (List Char)} (leads : LeadsTo start among path)
    (whole : ∀ part ∈ among, '/' ∉ part) :
    ∃ kept new, path = kept ++ new ∧ kept <+: start ∧ ∀ name ∈ new, Plain name := by
  induction leads with
  | done => exact ⟨_, [], (List.append_nil _).symm, List.prefix_rfl, by simp⟩
  | stay _ _ ih => exact ih fun part member => whole part (List.mem_cons_of_mem _ member)
  | up _ ih =>
    obtain ⟨kept, new, ends, onWay, plain⟩ := ih fun part member =>
      whole part (List.mem_cons_of_mem _ member)
    exact ⟨kept, new, ends, onWay.trans (List.prefix_append _ _), plain⟩
  | @down start last part rest named _ ih =>
    obtain ⟨kept, new, ends, onWay, plain⟩ := ih fun part member =>
      whole part (List.mem_cons_of_mem _ member)
    -- Either the new part is still there at the end, or a later part has gone above it.
    rcases List.prefix_concat_iff.mp onWay with rfl | before
    · have first : Plain (String.ofList part) := by
        refine ⟨?_, by simpa using whole part List.mem_cons_self⟩
        simpa [← String.toList_inj] using named
      exact ⟨start, String.ofList part :: new, by simp [ends], List.prefix_rfl,
        List.forall_mem_cons.mpr ⟨first, plain⟩⟩
    · exact ⟨kept, new, ends, before, plain⟩

end Path

/-- A text that resolves to a path in the root has plain names behind the root. -/
theorem resolve_below_root {boundary : Boundary} {requested : String} {action : FileAction}
    {path : Path} (resolved : (boundary.resolve requested action).outcome = .ok path)
    (inside : boundary.root <+: path) :
    ∃ names, path = boundary.root ++ names ∧ ∀ name ∈ names, Path.Plain name := by
  obtain ⟨-, -, leads, -⟩ :=
    (boundary.resolve_resolved requested action).allowed_iff.mp resolved
  obtain ⟨names, rfl⟩ := inside
  obtain ⟨kept, new, ends, ⟨gone, root⟩, plain⟩ := leads.plain (Path.parts_whole requested)
  refine ⟨names, rfl, fun name member => ?_⟩
  rw [← root, List.append_assoc, List.append_cancel_left_eq] at ends
  exact plain name (ends ▸ List.mem_append_right _ member)

/-! ### Tidy trees -/

/-- No link stands anywhere in a tree. -/
def Tree.Unlinked (tree : Tree) : Prop := ∀ place target, tree.find? place ≠ some (.link target)

theorem Tree.Unlinked.clear {tree : Tree} (unlinked : tree.Unlinked) (path : Path) :
    tree.Clear path := fun place target _ => unlinked place target

/-- Whatever stands in the tree stands in a directory, and where the root leads to a directory there
is no link below it, and every name and path is one that a call can ask for. -/
structure Tree.Tidy (root : Path) (tree : Tree) : Prop where
  closed : tree.Closed
  noLink : ∀ top names target, locate tree true root = .ok (.node top .directory) →
    tree.find? (top ++ names) ≠ some (.link target)
  named : ∀ top names node, locate tree true root = .ok (.node top .directory) →
    tree.find? (top ++ names) = some node →
    (∀ name ∈ names, Path.Plain name ∧ Path.Fits name) ∧
      byteLength (Path.text (root ++ names)) < pathBound

/-- The names that a search takes are such that it may take. -/
theorem fits_of_locate {tree : Tree} {followLast : Bool} {path : Path} {landing : Landing}
    (found : locate tree followLast path = .ok landing) : ∀ name ∈ path, Path.Fits name := by
  obtain ⟨clean, -, reaches⟩ := locate_eq_ok_iff.mp found
  intro name member
  refine ⟨?_, reaches.short_of_mem (List.mem_map_of_mem member)⟩
  simpa using List.any_eq_false.mp clean name member

namespace Tree.Tidy

variable {root top : Path} {tree : Tree} {names : List String} {followLast : Bool}
  {landing : Landing}

/-- A path in the root of a tidy tree leads straight on from where the root leads. -/
theorem arrives (tidy : tree.Tidy root) (leads : locate tree true root = .ok (.node top .directory))
    (follows : names ≠ [] ∨ followLast = true)
    (found : locate tree followLast (root ++ names) = .ok landing) :
    Arrives tree (top ++ names) landing := by
  by_cases more : names = []
  · subst more
    obtain rfl := follows.resolve_left fun other => other rfl
    rw [List.append_nil, leads] at found
    obtain rfl := Except.ok.inj found
    simpa using Arrives.node (locate_stands tidy.closed leads)
  · obtain ⟨place, left, before, after⟩ := locate_split found more
    obtain ⟨rfl, -⟩ := Landing.node.inj (Except.ok.inj (before.symm.trans leads))
    exact ((reaches_straight_iff (locate_stands tidy.closed leads)
      fun taken target _ => tidy.noLink place taken target leads).mp after).2.2

/-- A path in the root leads to a directory below the place that the root leads to. -/
theorem place_eq {place : Path} (tidy : tree.Tidy root)
    (leads : locate tree true (root ++ names) = .ok (.node place .directory)) :
    ∃ top, locate tree true root = .ok (.node top .directory) ∧ place = top ++ names := by
  by_cases more : names = []
  · subst more
    exact ⟨place, by simpa using leads, (List.append_nil _).symm⟩
  · obtain ⟨top, _, before, -⟩ := locate_split leads more
    cases tidy.arrives before (.inr rfl) leads with
    | node => exact ⟨top, before, rfl⟩

end Tree.Tidy

/-! ### What comes into a tidy tree -/

/-- A file is written in a directory, and not in place of one. -/
theorem Landing.Writable.in_directory {tree : Tree} {followLast : Bool} {path : Path}
    {landing : Landing} (writable : landing.Writable) (closed : tree.Closed)
    (found : locate tree followLast path = .ok landing) :
    ∃ above last, landing.place = above ++ [last] ∧ tree.find? above = some .directory ∧
      tree.find? landing.place ≠ some .directory := by
  have stands := locate_stands closed found
  cases landing with
  | vacant directory name => exact ⟨directory, name, rfl, stands.1, by simp [Landing.place, stands.2]⟩
  | node place node =>
    obtain ⟨content, rfl⟩ := writable
    obtain ⟨above, last, rfl⟩ : ∃ above last, place = above ++ [last] := by
      rcases List.eq_nil_or_concat place with rfl | ⟨above, last, rfl⟩
      · simp [Landing.Stands] at stands
      · exact ⟨above, last, List.concat_eq_append⟩
    have file : tree.find? (above ++ [last]) = some (.file content) := stands
    exact ⟨above, last, rfl, closed _ _ _ file, by simp [Landing.place, file]⟩

section

variable {tree : Tree} {root path place top : Path} {name : String} {names : List String}

/-- A path with a name on its way that is free leads to no directory. -/
theorem not_leads_of_free (leads : locate tree true path = .ok (.node place .directory))
    (free : tree.find? (place ++ [name]) = none) (more : List String) :
    locate tree true (path ++ name :: more) ≠ .ok (.node top .directory) := by
  intro found
  obtain ⟨other, left, before, after⟩ := locate_split found (List.cons_ne_nil _ _)
  obtain ⟨rfl, -⟩ := Landing.node.inj (Except.ok.inj (before.symm.trans leads))
  rw [List.map_cons, reaches_down_iff (by simp [free])] at after
  obtain ⟨-, ⟨stands, -⟩ | ⟨-, -, arrives⟩⟩ := after
  · simp [free] at stands
  · cases arrives with
    | node stands => simp [free] at stands

/-- Of two paths on one way, one goes on where the other ends. -/
theorem prefix_or_extends (onWay : path ++ [name] <+: root ++ names) :
    (∃ more, root = path ++ [name] ++ more) ∨ ∃ rest, path = root ++ rest := by
  rcases List.prefix_or_prefix_of_prefix onWay (List.prefix_append root names) with
    ⟨more, same⟩ | within
  · exact .inl ⟨more, same.symm⟩
  · rcases List.prefix_concat_iff.mp within with rfl | ⟨rest, same⟩
    · exact .inl ⟨[], (List.append_nil _).symm⟩
    · exact .inr ⟨rest, same.symm⟩

/-- A new directory on the way along a path in the root leaves the root where it was, unless it is
the root itself. -/
theorem root_after_insert (closed : tree.Closed)
    (leads : locate tree true path = .ok (.node place .directory))
    (free : tree.find? (place ++ [name]) = none) (onWay : path ++ [name] <+: root ++ names)
    (after : locate (tree.insert (place ++ [name]) .directory) true root =
      .ok (.node top .directory)) :
    locate tree true root = .ok (.node top .directory) ∨
      (root = path ++ [name] ∧ top = place ++ [name]) := by
  have preserved := Preserved.insert free .directory
  have stood := tree.find?_insert_self (by simp : place ++ [name] ≠ []) .directory
  have leads' := preserved.locate leads .node
  rcases prefix_or_extends onWay with ⟨more, rfl⟩ | ⟨rest, rfl⟩
  · -- The root lies behind the new directory, in which nothing stands.
    have here {found : Path} (ends : locate (tree.insert (place ++ [name]) .directory) true
        (path ++ [name]) = .ok (.node found .directory)) : found = place ++ [name] := by
      obtain ⟨-, -, arrives⟩ := (locate_entry_iff leads' (.inr (by simp [stood]))).mp ends
      cases arrives with
      | node => rfl
    cases more with
    | nil =>
      rw [List.append_nil] at after ⊢
      exact .inr ⟨rfl, here after⟩
    | cons next more =>
      obtain ⟨found, left, before, -⟩ := locate_split after (List.cons_ne_nil _ _)
      obtain rfl := here before
      have empty : (tree.insert (place ++ [name]) .directory).find? (place ++ [name] ++ [next]) =
          none := by
        rw [tree.find?_insert_of_ne (by simp), Option.eq_none_iff_forall_ne_some]
        intro node stands
        simp [closed _ _ _ stands] at free
      exact absurd after (not_leads_of_free before empty more)
  · -- The path leads through the root, and did before.
    left
    cases rest with
    | nil =>
      rw [List.append_nil] at leads leads'
      rw [leads, ← Except.ok.inj (leads'.symm.trans after)]
    | cons next rest =>
      obtain ⟨found, _, before, -⟩ := locate_split leads (List.cons_ne_nil _ _)
      rw [before, ← Except.ok.inj ((preserved.locate before .node).symm.trans after)]

namespace Tree.Tidy

/-- A directory that is made on the way along a path in the root keeps a tree tidy. -/
theorem insert_directory (tidy : tree.Tidy root)
    (leads : locate tree true path = .ok (.node place .directory))
    (free : tree.find? (place ++ [name]) = none) (onWay : path ++ [name] <+: root ++ names)
    (plain : ∀ name ∈ names, Path.Plain name) (fits : Path.Fits name)
    (bounded : byteLength (Path.text (path ++ [name])) < pathBound) :
    (tree.insert (place ++ [name]) .directory).Tidy root := by
  have stood := tree.find?_insert_self (by simp : place ++ [name] ≠ []) .directory
  have directory := locate_stands tidy.closed leads
  -- Below the new directory nothing stands, so a root there has nothing in it.
  have empty {more : List String} (further : more ≠ []) {node : Node} :
      (tree.insert (place ++ [name]) .directory).find? (place ++ [name] ++ more) ≠ some node := by
    rw [tree.find?_insert_of_ne (by simpa using further)]
    intro stands
    simp [tidy.closed.above further stands] at free
  constructor
  case closed => exact tidy.closed.insert directory (by simp [free]) _
  case noLink =>
    intro top below target after link
    rcases root_after_insert tidy.closed leads free onWay after with before | ⟨-, rfl⟩
    · by_cases here : top ++ below = place ++ [name]
      · simp [here, stood] at link
      · rw [tree.find?_insert_of_ne here] at link
        exact tidy.noLink top below target before link
    · by_cases further : below = []
      · simp [further, stood] at link
      · exact empty further link
  case named =>
    intro top below node after stands
    rcases root_after_insert tidy.closed leads free onWay after with before | ⟨rfl, rfl⟩
    · by_cases here : top ++ below = place ++ [name]
      · rcases prefix_or_extends onWay with ⟨more, rfl⟩ | ⟨rest, rfl⟩
        · rw [List.append_assoc] at before
          exact absurd before (not_leads_of_free leads free more)
        · -- The new directory itself: its names are those that were searched for.
          cases tidy.arrives before (.inr rfl) leads with
          | node _ =>
            rw [List.append_assoc, List.append_cancel_left_eq] at here
            subst here
            rw [List.append_assoc] at onWay bounded
            have among := ((List.prefix_append_right_inj root).mp onWay).subset
            refine ⟨fun name' member => ⟨plain name' (among member), ?_⟩, bounded⟩
            rcases List.mem_append.mp member with earlier | last
            · exact fits_of_locate leads name' (List.mem_append_right _ earlier)
            · exact List.mem_singleton.mp last ▸ fits
      · rw [tree.find?_insert_of_ne here] at stands
        exact tidy.named top below node before stands
    · by_cases further : below = []
      · subst further
        simpa using bounded
      · exact absurd stands (empty further)

/-- So does a file that is put where a path in the root leads. -/
theorem insert_file (tidy : tree.Tidy root) (plain : ∀ name ∈ names, Path.Plain name)
    {landing : Landing} (found : locate tree true (root ++ names) = .ok landing)
    (writable : landing.Writable) (content : Bytes) :
    (tree.insert landing.place (.file content)).Tidy root := by
  obtain ⟨above, last, ends, directory, leaf⟩ := writable.in_directory tidy.closed found
  have stood : (tree.insert landing.place (.file content)).find? landing.place =
      some (.file content) := tree.find?_insert_self (by simp [ends]) _
  have before {top : Path} (after : locate (tree.insert landing.place (.file content)) true root =
      .ok (.node top .directory)) : locate tree true root = .ok (.node top .directory) := by
    -- A search that ends at a directory never meets the file, so it goes the same way without it.
    refine Framed.locate (fun other node noFile found => ?_) after
    by_cases here : other = landing.place
    · rw [here, stood] at found
      exact absurd (Option.some.inj found).symm (noFile content)
    · rwa [tree.find?_insert_of_ne here] at found
  constructor
  case closed => exact ends ▸ tidy.closed.insert directory (ends ▸ leaf) _
  case noLink =>
    intro top below target after link
    by_cases here : top ++ below = landing.place
    · simp [here, stood] at link
    · rw [tree.find?_insert_of_ne here] at link
      exact tidy.noLink top below target (before after) link
  case named =>
    intro top below node after stands
    by_cases here : top ++ below = landing.place
    · have arrives := tidy.arrives (before after) (.inr rfl) found
      rw [arrives.place_eq, List.append_cancel_left_eq] at here
      subst here
      refine ⟨fun name member => ⟨plain name member, ?_⟩, (locate_eq_ok_iff.mp found).2.1⟩
      exact fits_of_locate found name (List.mem_append_right _ member)
    · rw [tree.find?_insert_of_ne here] at stands
      exact tidy.named top below node (before after) stands

end Tree.Tidy

end

/-! ### Operations on closed trees -/

section Closed

variable {system : System} {tree made : Tree} {path place : Path} {node : Node}

theorem removal_postorder (closed : tree.Closed)
    (found : locate tree false path = .ok (.node place node)) :
    tree.Postorder (removal system tree path place node) := by
  have stands : tree.find? place = some node := locate_stands closed found
  cases node with
  | directory =>
    have opened : tree.Postorder [.openDirectory place] := .single fun place takes => nomatch takes
    have emptying : tree.Postorder (emptyingCalls system tree place) :=
      opened.append (Tree.emptying_postorder closed (tree.reach_height place))
    simp only [removal]
    split
    · exact emptying.concat fun name node stands =>
        Tree.mem_removed_emptying closed (tree.reach_height place) stands
    · rwa [List.append_nil]
  | file | link =>
    -- Nothing stands below what is no directory.
    refine .single fun other takes name node below => ?_
    obtain rfl := Option.some.inj takes
    cases stands.symm.trans (closed _ _ _ below)

namespace Tree.Closed

theorem makeDirectory (closed : tree.Closed)
    (succeeded : tree.makeDirectory system path = .ok made) : made.Closed := by
  obtain ⟨directory, name, found, rfl⟩ := makeDirectory_made succeeded
  obtain ⟨stands, free⟩ := locate_stands closed found
  exact closed.insert stands (by simp [free]) _

theorem createDirectory (closed : tree.Closed) (system : System) (path : Path) :
    (tree.createDirectory system path).2.Closed :=
  createDirectory_keeps Tree.Closed (fun _ _ _ _ closed created => closed.makeDirectory created) closed

theorem put (closed : tree.Closed) {landing : Landing}
    (found : locate tree true path = .ok landing) (writable : landing.Writable) (content : Bytes) :
    (tree.insert landing.place (.file content)).Closed := by
  obtain ⟨above, last, ends, directory, leaf⟩ := writable.in_directory closed found
  exact ends ▸ closed.insert directory (ends ▸ leaf) _

theorem writeFile (closed : tree.Closed) (system : System) (path : Path) (content : Bytes) :
    (tree.writeFile system path content).2.Closed := by
  have staged := writeFile_staged Tree.Closed closed (closed.createDirectory system path.dropLast)
    content
  generalize tree.writeFile system path content = result at staged ⊢
  cases staged with
  | failed closed => exact closed
  | brokenOff closed found writable | done closed found writable => exact closed.put found writable _

theorem delete (closed : tree.Closed) (system : System) (path : Path) :
    (tree.delete system path).2.Closed := by
  have deleted := delete_deleted system tree path
  generalize tree.delete system path = result at deleted ⊢
  cases deleted with
  | nothing => exact closed
  | @made place node found =>
    have postorder : tree.Postorder (removal system tree path place node) :=
      removal_postorder closed found
    have attempted := attemptAll_attempted system tree (removal system tree path place node)
    generalize system.attemptAll tree _ = result at attempted ⊢
    cases attempted with
    | done => exact postorder.closed_foldl closed removal_removes List.prefix_rfl
    | stopped whole => exact postorder.closed_foldl closed removal_removes ⟨_, whole.symm⟩

end Tree.Closed

end Closed

/-! ### Operations on tidy trees -/

/-- A deletion brings nothing into a tree, wherever links stand. -/
theorem delete_preserved (tree : Tree) (system : System) (path : Path) :
    Preserved (tree.delete system path).2 tree := by
  have deleted := delete_deleted system tree path
  generalize tree.delete system path = result at deleted ⊢
  cases deleted with
  | nothing => exact .refl tree
  | @made place node found =>
    have shrunk : Shrunk place tree (system.attemptAll tree
        (removal system tree path place node)).2 :=
      attemptAll_shrunk removal_removes fun _ => below_of_mem_removal
    exact fun _ _ => shrunk.stood

namespace Tree.Tidy

variable {system : System} {root path place : Path} {tree made : Tree} {names : List String}
  {name : String} {content : Bytes}

theorem makeDirectory (tidy : tree.Tidy root) (onWay : path <+: root ++ names)
    (plain : ∀ name ∈ names, Path.Plain name)
    (succeeded : tree.makeDirectory system path = .ok made) : made.Tidy root := by
  obtain ⟨directory, name, found, rfl⟩ := makeDirectory_made succeeded
  rcases List.eq_nil_or_concat path with rfl | ⟨above, last, rfl⟩
  · -- Without a step a search ends at the top, which is never free.
    obtain ⟨-, -, reaches⟩ := locate_eq_ok_iff.mp found
    cases reaches
  · rw [List.concat_eq_append] at found onWay
    obtain ⟨place, left, leads, -⟩ := locate_split found (List.cons_ne_nil _ _)
    obtain ⟨fits, bounded, arrives⟩ := (locate_entry_iff leads (.inl rfl)).mp found
    cases arrives with
    | vacant ends free =>
      obtain ⟨rfl, rfl⟩ := List.append_singleton_inj.mp ends
      exact tidy.insert_directory leads free onWay plain fits bounded

theorem createDirectory (tidy : tree.Tidy root) (onWay : path <+: root ++ names)
    (plain : ∀ name ∈ names, Path.Plain name) : (tree.createDirectory system path).2.Tidy root := by
  refine createDirectory_keeps (·.Tidy root) ?_ tidy
  intro before made above further tidy created
  exact tidy.makeDirectory (further.trans onWay) plain created

theorem writeFile (tidy : tree.Tidy root) (plain : ∀ name ∈ names, Path.Plain name) :
    (tree.writeFile system (root ++ names) content).2.Tidy root := by
  have created : (tree.createDirectory system (root ++ names).dropLast).2.Tidy root :=
    tidy.createDirectory (List.dropLast_prefix _) plain
  have staged := writeFile_staged (·.Tidy root) tidy created content
  generalize tree.writeFile system (root ++ names) content = result at staged ⊢
  cases staged with
  | failed tidy => exact tidy
  | brokenOff tidy found writable | done tidy found writable =>
    exact tidy.insert_file plain found writable _

theorem delete (tidy : tree.Tidy root) : (tree.delete system path).2.Tidy root where
  closed := tidy.closed.delete system path
  -- The root leads where it led before, and nothing has come below it.
  noLink top below target leads link :=
    have kept := delete_preserved tree system path
    tidy.noLink top below target (kept.locate leads .node) (kept _ _ link)
  named top below node leads stands :=
    have kept := delete_preserved tree system path
    tidy.named top below node (kept.locate leads .node) (kept _ _ stands)

/-- A tree without links stays tidy where nothing comes at its root or below. -/
theorem outside {after : Tree} (tidy : tree.Tidy root) (unlinked : tree.Unlinked)
    (closed : after.Closed)
    (noLinks : ∀ place target, after.find? place = some (.link target) →
      tree.find? place = some (.link target))
    (kept : ∀ place node, root <+: place → after.find? place = some node →
      tree.find? place = some node) : after.Tidy root where
  closed := closed
  noLink top names target _ link := unlinked _ _ (noLinks _ _ link)
  named top names node leads stands := by
    have clear : after.Clear root :=
      fun place target _ link => unlinked place target (noLinks place target link)
    obtain ⟨searchable, -, arrives⟩ := (locate_clear_iff clear).mp leads
    cases arrives with
    | node directory =>
      -- The root stood before, and was found in the same way.
      have stood := kept root _ List.prefix_rfl directory
      have before : locate tree true root = .ok (.node root .directory) := by
        refine (locate_clear_iff (unlinked.clear root)).mpr
          ⟨searchable, fun above onWay differ => ?_, .node stood⟩
        obtain ⟨more, rfl⟩ := onWay
        exact tidy.closed.above (fun nothing => differ (by simp [nothing])) stood
      exact tidy.named root names node before (kept _ node (List.prefix_append _ _) stands)

/-- An action outside the root that deletes nothing leaves a tree without links tidy. -/
theorem of_confined {action : FileAction} {after : Tree} (tidy : tree.Tidy root)
    (unlinked : tree.Unlinked) (closed : after.Closed) (confined : Confined action path tree after)
    (keeps : action ≠ .delete) (beside : ¬ root <+: path) : after.Tidy root := by
  refine tidy.outside unlinked closed confined.noLinks fun place node inside stands => ?_
  by_cases same : after.find? place = tree.find? place
  · exact same ▸ stands
  · cases confined.touches place same with
    | target => exact absurd inside beside
    | below deleting => exact absurd deleting keeps
    | above onWay => exact absurd (inside.trans onWay) beside

end Tree.Tidy

/-! ### Payloads -/

open Bridge

section

variable {boundary : Boundary} {system : System} {tree : Tree}

/-- A path that is used lies in the root, or the tree is one without links. -/
private theorem inside_or_unlinked (unlinked : boundary.consent.isSome → tree.Unlinked)
    {requested : String} {action : FileAction} {path : Path}
    (resolved : (boundary.resolve requested action).outcome = .ok path) :
    (∃ names, path = boundary.root ++ names ∧ ∀ name ∈ names, Path.Plain name) ∨
      ¬ boundary.root <+: path ∧ tree.Unlinked := by
  by_cases inside : boundary.root <+: path
  · exact .inl (resolve_below_root resolved inside)
  · obtain ⟨_, consent, -⟩ := (Boundary.permits_of_resolve resolved).resolve_left inside
    exact .inr ⟨inside, unlinked (by simp [consent])⟩

theorem runFile_tidy (unlinked : boundary.consent.isSome → tree.Unlinked)
    (tidy : tree.Tidy boundary.root) (action : FileAction) (call : Call) :
    (runFile boundary system tree action call).files.Tidy boundary.root := by
  unfold runFile
  split
  · exact tidy
  next requested named =>
    cases action with
    | readText | listDirectory | «exists» =>
      exact Boundary.perform_keeps (·.Tidy boundary.root) tidy fun _ _ => tidy
    | writeText =>
      refine Boundary.perform_keeps (·.Tidy boundary.root) tidy fun path resolved => ?_
      rcases inside_or_unlinked unlinked resolved with ⟨names, rfl, plain⟩ | ⟨beside, unlinked⟩
      · exact tidy.writeFile plain
      · exact tidy.of_confined unlinked (tidy.closed.writeFile system path _)
          (writeFile_confined (unlinked.clear path) system _) (by simp) beside
    | createDirectory =>
      refine Boundary.perform_keeps (·.Tidy boundary.root) tidy fun path resolved => ?_
      rcases inside_or_unlinked unlinked resolved with ⟨names, rfl, plain⟩ | ⟨beside, unlinked⟩
      · exact tidy.createDirectory List.prefix_rfl plain
      · have grown := createDirectory_grown (unlinked.clear path) system
        exact tidy.of_confined unlinked (tidy.closed.createDirectory system path)
          (grown.confined .createDirectory) (by simp) beside
    | delete =>
      refine Boundary.perform_keeps (·.Tidy boundary.root) tidy fun path resolved => ?_
      split
      · exact tidy
      · exact tidy.delete

end

/-- No payload makes a tidy tree untidy. Where somebody may consent to paths outside the root, the
tree has to be without links. -/
theorem serve_tidy {host : Host} {start : State}
    (unlinked : host.access.boundary.consent.isSome → start.world.files.Unlinked)
    (tidy : start.world.files.Tidy host.access.boundary.root) (payloads : List Bytes) :
    (host.serve start payloads).world.files.Tidy host.access.boundary.root := by
  refine (host.serve_induction (fun state => state.world.files.Tidy host.access.boundary.root ∧
    (host.access.boundary.consent.isSome → state.world.files.Unlinked)) ⟨tidy, unlinked⟩ ?_
    payloads).1
  rintro state payload ⟨tidy, unlinked⟩
  refine ⟨?_, fun consent place target link => ?_⟩
  · rw [Host.dispatch_files]
    split
    · exact runFile_tidy unlinked tidy _ _
    · exact tidy
  · have linkFree : host.access.boundary.LinkFree state.world.files :=
      fun place target _ => unlinked consent place target
    exact unlinked consent place target ((dispatch_contained linkFree payload).noLinks _ _ link)

end ScriptSandbox.Files
