import ScriptSandbox.Policy.Basic
import ScriptSandbox.Proofs.Files.Calls
import ScriptSandbox.Proofs.Files.Reaching

/-!
# What operations on files change

An operation at a path changes the node at that path. Creating and writing also put directories
where nothing stood above it, and deleting also takes away what stood below. No operation makes a
link. All this holds of an operation that fails half way as well.
-/
namespace ScriptSandbox

/-- Whether an operation may change files. -/
def FileAction.changesFiles : FileAction → Bool
  | writeText | delete | createDirectory => true
  | readText | listDirectory | .exists => false

namespace Files

/-- How an action at a path may touch a place of the tree. -/
inductive Touches (action : FileAction) (path : Path) (before after : Tree) : Path → Prop where
  | target : Touches action path before after path
  | below {place : Path} (deleting : action = .delete) (below : path <+: place) :
      Touches action path before after place
  | above {place : Path} (above : place <+: path) (missing : before.find? place = none)
      (created : after.find? place = some .directory) : Touches action path before after place

/-- A change of the tree that an action at a path may make. -/
structure Confined (action : FileAction) (path : Path) (before after : Tree) : Prop where
  touches : ∀ place, after.find? place ≠ before.find? place →
    Touches action path before after place
  noLinks : ∀ place target, after.find? place = some (.link target) →
    before.find? place = some (.link target)

theorem Confined.refl (action : FileAction) (path : Path) (tree : Tree) :
    Confined action path tree tree :=
  ⟨fun _ changed => absurd rfl changed, fun _ _ link => link⟩

/-! ### Creating directories -/

/-- Directories may have come where nothing stood, at a path and above it. -/
def Grown (path : Path) (before after : Tree) : Prop :=
  ∀ place, after.find? place = before.find? place ∨
    (place <+: path ∧ before.find? place = none ∧ after.find? place = some .directory)

theorem Grown.refl (path : Path) (tree : Tree) : Grown path tree tree := fun _ => .inl rfl

theorem Grown.mono {path longer : Path} {before after : Tree} (grown : Grown path before after)
    (onWay : path <+: longer) : Grown longer before after :=
  fun place => (grown place).imp_right fun ⟨above, rest⟩ => ⟨above.trans onWay, rest⟩

theorem Grown.trans {path : Path} {before between after : Tree} (first : Grown path before between)
    (second : Grown path between after) : Grown path before after := by
  intro place
  rcases second place with same | ⟨above, missing, created⟩
  · rcases first place with kept | ⟨above, missing, created⟩
    · exact .inl (same.trans kept)
    · exact .inr ⟨above, missing, same.trans created⟩
  · rcases first place with kept | ⟨_, _, stands⟩
    · exact .inr ⟨above, kept ▸ missing, created⟩
    · -- What the first change created cannot be missing for the second.
      rw [missing] at stands
      cases stands

/-- What comes above a path leaves the node at the path itself. -/
theorem Grown.same {path : Path} {before after : Tree} (grown : Grown path.dropLast before after) :
    after.find? path = before.find? path := by
  refine (grown path).elim id fun ⟨above, _⟩ => ?_
  have shorter := above.length_le
  rw [List.length_dropLast] at shorter
  obtain rfl : path = [] := List.length_eq_zero_iff.mp (by omega)
  simp

theorem Grown.noLinks {path : Path} {before after : Tree} (grown : Grown path before after)
    (place : Path) (target : String) (link : after.find? place = some (.link target)) :
    before.find? place = some (.link target) := by
  rcases grown place with kept | ⟨_, _, created⟩
  · exact kept ▸ link
  · rw [created] at link
    cases link

theorem Grown.clear {path other : Path} {before after : Tree} (grown : Grown path before after)
    (clear : before.Clear other) : after.Clear other :=
  fun place target onWay link => clear place target onWay (grown.noLinks place target link)

theorem Grown.confined {path : Path} {before after : Tree} (grown : Grown path before after)
    (action : FileAction) : Confined action path before after where
  touches place changed := by
    rcases grown place with kept | ⟨above, missing, created⟩
    · exact absurd kept changed
    · exact .above above missing created
  noLinks := grown.noLinks

/-- A directory is made where a name is free. -/
theorem makeDirectory_made {tree made : Tree} {system : System} {path : Path}
    (succeeded : tree.makeDirectory system path = .ok made) :
    ∃ directory name, locate tree false path = .ok (.vacant directory name) ∧
      made = tree.insert (directory ++ [name]) .directory := by
  unfold Tree.makeDirectory at succeeded
  split at succeeded
  · cases succeeded
  · cases succeeded
  next directory name found =>
    unfold System.attempt at succeeded
    split at succeeded
    · cases succeeded
    · exact ⟨directory, name, found, (Except.ok.inj succeeded).symm⟩

private theorem makeDirectory_grown {tree made : Tree} {system : System} {path : Path}
    (clear : tree.Clear path) (succeeded : tree.makeDirectory system path = .ok made) :
    Grown path tree made := by
  obtain ⟨directory, name, found, rfl⟩ := makeDirectory_made succeeded
  cases locate_arrives clear found with
  | vacant ends free =>
    subst ends
    intro place
    by_cases here : place = directory ++ [name]
    · subst here
      exact .inr ⟨List.prefix_rfl, free, tree.find?_insert_self (by simp) _⟩
    · exact .inl (tree.find?_insert_of_ne here _)

theorem settle_tree (tree : Tree) (path : Path) (fault : Fault) :
    (tree.settle path fault).2 = tree := by
  unfold Tree.settle
  split <;> rfl

/-- What each creation of a directory on the way along a path keeps is kept when all that are missing
are created. -/
theorem makeDirectories_keeps {system : System} {path : Path} (kept : Tree → Prop)
    (step : ∀ before made above, above <+: path → kept before →
      before.makeDirectory system above = .ok made → kept made)
    {tree : Tree} {names : List String} (onWay : names.reverse <+: path) (initial : kept tree) :
    kept (tree.makeDirectories system names).2 := by
  -- The recursion goes up the path, so the induction is on its names in reverse.
  induction names generalizing tree with
  | nil => exact initial
  | cons name above ih =>
    have further : above.reverse <+: path := List.IsPrefix.trans (by simp) onWay
    have keptAbove := ih further initial
    simp only [Tree.makeDirectories]
    split
    next made => exact step _ _ _ onWay initial made
    · -- Something is missing above. What came there stays also when the directory itself fails.
      split
      next stopped => simpa only [stopped] using keptAbove
      next between finished =>
        rw [finished] at keptAbove
        split
        next made => exact step _ _ _ onWay keptAbove made
        · rw [settle_tree]
          exact keptAbove
    · rw [settle_tree]
      exact initial

theorem createDirectory_keeps {system : System} {tree : Tree} {path : Path} (kept : Tree → Prop)
    (step : ∀ before made above, above <+: path → kept before →
      before.makeDirectory system above = .ok made → kept made)
    (initial : kept tree) : kept (tree.createDirectory system path).2 :=
  makeDirectories_keeps kept step (by simp) initial

theorem createDirectory_grown {tree : Tree} {path : Path} (clear : tree.Clear path)
    (system : System) : Grown path tree (tree.createDirectory system path).2 := by
  refine createDirectory_keeps (Grown path tree) ?_ (.refl _ _)
  intro before made above onWay grown created
  exact grown.trans ((makeDirectory_grown ((grown.clear clear).mono onWay) created).mono onWay)

/-! ### Writing files -/

/-- Where the node is that a search ends at, or the name that is free. -/
def Landing.place : Landing → Path
  | .node path _ => path
  | .vacant directory name => directory ++ [name]

theorem Arrives.place_eq {tree : Tree} {path : Path} {landing : Landing}
    (arrives : Arrives tree path landing) : landing.place = path := by
  cases arrives with
  | node => rfl
  | vacant ends => exact ends.symm

/-- A file may be put where a search ends: at a file, or at a name that is free. -/
def Landing.Writable : Landing → Prop
  | .node _ stood => ∃ content, stood = .file content
  | .vacant .. => True

theorem Reaches.writable_stood {tree : Tree} {links : Nat} {directory : Path} {steps : List Move}
    {landing : Landing} (reaches : Reaches tree true links directory steps landing)
    (writable : landing.Writable) :
    ∀ node, tree.find? landing.place = some node → ∃ content, node = .file content := by
  induction reaches with
  | done => simp [Landing.Writable] at writable
  | vacant short free =>
    intro node stands
    rw [Landing.place, free] at stands
    cases stands
  | file short stands =>
    intro node found
    rw [Landing.place, stands] at found
    exact ⟨_, (Option.some.inj found).symm⟩
  | link short stands unfollowed => cases unfollowed
  | up _ ih | stay _ ih | down _ _ _ ih | through _ _ _ _ ih => exact ih writable

/-- A tree has the directories and links of another. -/
def Framed (before after : Tree) : Prop :=
  ∀ place node, (∀ content, node ≠ .file content) → before.find? place = some node →
    after.find? place = some node

/-- Where a search ends that a file can be put at, a search ends at the file once it is there. -/
theorem Reaches.put {before after : Tree} {links : Nat} {directory : Path} {steps : List Move}
    {landing : Landing} {content : Bytes}
    (reaches : Reaches before true links directory steps landing) (writable : landing.Writable)
    (framed : Framed before after) (stands : after.find? landing.place = some (.file content)) :
    Reaches after true links directory steps (.node landing.place (.file content)) := by
  induction reaches with
  | done => simp [Landing.Writable] at writable
  | up _ ih => exact .up (ih writable stands)
  | stay _ ih => exact .stay (ih writable stands)
  | vacant short | file short => exact .file short stands
  | down short directory _ ih =>
    exact .down short (framed _ _ (by simp) directory) (ih writable stands)
  | link short link unfollowed => cases unfollowed
  | through short link followed _ ih =>
    exact .through short (framed _ _ (by simp) link) followed (ih writable stands)

/-- A path that leads to a directory leads there as well. -/
theorem Reaches.to_directory {before after : Tree} {followLast : Bool} {links : Nat}
    {directory top : Path} {steps : List Move}
    (reaches : Reaches before followLast links directory steps (.node top .directory))
    (framed : Framed before after) :
    Reaches after followLast links directory steps (.node top .directory) := by
  generalize ends : Landing.node top .directory = landing at reaches
  induction reaches with
  | done => exact .done
  | up _ ih => exact .up (ih ends)
  | stay _ ih => exact .stay (ih ends)
  | vacant | file | link => cases ends
  | down short stands _ ih => exact .down short (framed _ _ (by simp) stands) (ih ends)
  | through short stands followed _ ih =>
    exact .through short (framed _ _ (by simp) stands) followed (ih ends)

theorem Framed.locate {before after : Tree} {followLast : Bool} {path top : Path}
    (framed : Framed before after)
    (found : Files.locate before followLast path = .ok (.node top .directory)) :
    Files.locate after followLast path = .ok (.node top .directory) := by
  obtain ⟨clean, bounded, reaches⟩ := locate_eq_ok_iff.mp found
  exact locate_eq_ok_iff.mpr ⟨clean, bounded, reaches.to_directory framed⟩

section Putting

variable {tree : Tree} {path : Path} {landing : Landing}

theorem Landing.Writable.below (writable : landing.Writable)
    (found : locate tree true path = .ok landing) : landing.place ≠ [] := by
  intro top
  have stood := (locate_eq_ok_iff.mp found).2.2.writable_stood writable
  obtain ⟨_, file⟩ := stood _ (top ▸ tree.find?_nil)
  cases file

/-- A file that is put where a path leads replaces no directory and no link. -/
theorem Landing.Writable.framed (writable : landing.Writable)
    (found : locate tree true path = .ok landing) (content : Bytes) :
    Framed tree (tree.insert landing.place (.file content)) := by
  intro place node other stands
  have differ : place ≠ landing.place := by
    rintro rfl
    have stood := (locate_eq_ok_iff.mp found).2.2.writable_stood writable
    obtain ⟨old, file⟩ := stood node stands
    exact other old file
  rw [tree.find?_insert_of_ne differ, stands]

/-- The path leads to the file then. -/
theorem locate_put (found : locate tree true path = .ok landing) (writable : landing.Writable)
    (content : Bytes) :
    locate (tree.insert landing.place (.file content)) true path =
      .ok (.node landing.place (.file content)) := by
  obtain ⟨clean, bounded, reaches⟩ := locate_eq_ok_iff.mp found
  refine locate_eq_ok_iff.mpr ⟨clean, bounded, ?_⟩
  exact reaches.put writable (writable.framed found content)
    (tree.find?_insert_self (writable.below found) _)

end Putting

/-- What is no write was broken off. -/
def Whole {α : Type} (outcome : Except Fault α) : Prop :=
  ∀ reason, outcome ≠ .error (.brokenOff reason)

theorem advance_whole (tree : Tree) (aim : Aim) (directory : Path) (moves : List Move) :
    Whole (advance tree aim directory moves) := by
  intro reason broken
  induction moves generalizing directory with
  | nil => cases broken
  | cons move rest ih =>
    cases move with
    | up | stay => exact ih _ broken
    | down name =>
      simp only [advance] at broken
      split at broken
      · cases broken
      · split at broken
        · cases broken
        · split at broken
          · split at broken <;> cases broken
          · exact ih _ broken
          · split at broken <;> cases broken
          · split at broken <;> cases broken

theorem locateFor_whole (aim : Aim) (tree : Tree) (path : Path) :
    Whole (locateFor aim tree path) := by
  have searches (links : Nat) (directory : Path) (moves : List Move) :
      Whole (search tree aim links directory moves) := by
    intro reason broken
    induction links generalizing directory moves with
    | zero =>
      unfold search at broken
      split at broken
      next failed =>
        cases broken
        exact advance_whole _ _ _ _ reason failed
      · cases broken
      · cases broken
    | succ links ih =>
      unfold search at broken
      split at broken
      next failed =>
        cases broken
        exact advance_whole _ _ _ _ reason failed
      · cases broken
      · exact ih _ _ broken
  intro reason broken
  unfold locateFor at broken
  split at broken
  · cases broken
  · split at broken
    · cases broken
    · exact searches _ _ _ reason broken

theorem makeDirectory_whole (tree : Tree) (system : System) (path : Path) :
    Whole (tree.makeDirectory system path) := by
  intro reason broken
  unfold Tree.makeDirectory at broken
  split at broken
  next failed =>
    cases broken
    exact locateFor_whole _ _ _ reason failed
  · cases broken
  · unfold System.attempt at broken
    split at broken <;> cases broken

theorem settle_whole {tree : Tree} {path : Path} {fault : Fault}
    (whole : ∀ reason, fault ≠ .brokenOff reason) : Whole (tree.settle path fault).1 := by
  unfold Tree.settle
  split
  · simp [Whole]
  · simpa [Whole] using whole

theorem makeDirectories_whole (tree : Tree) (system : System) (names : List String) :
    Whole (tree.makeDirectories system names).1 := by
  induction names with
  | nil => simp [Tree.makeDirectories, Whole]
  | cons name above ih =>
    have made (tree : Tree) {fault : Fault}
        (failed : tree.makeDirectory system (name :: above).reverse = .error fault)
        (reason : String) : fault ≠ .brokenOff reason := by
      rintro rfl
      exact makeDirectory_whole _ _ _ reason failed
    simp only [Tree.makeDirectories]
    split
    · simp [Whole]
    · split
      next stopped => simpa only [stopped] using ih
      · split
        · simp [Whole]
        next failed => exact settle_whole (made _ failed)
    next failed => exact settle_whole (made _ failed)

/-- How content is put at a place: the file is not opened, the write breaks off, or the content is
there. -/
inductive Put (system : System) (tree : Tree) (place : Path) (content : Bytes) :
    Except Fault Unit × Tree → Prop where
  | denied {reason : String} (refused : system.refuses (.openFile place) = some reason) :
      Put system tree place content (.error (.denied reason), tree)
  | brokenOff {written : Nat} {reason : String}
      (breaks : system.breaksOff place = some (written, reason)) (short : written < content.length) :
      Put system tree place content
        (.error (.brokenOff reason), tree.insert place (.file (content.take written)))
  | done : Put system tree place content (.ok (), tree.insert place (.file content))

theorem put_put (system : System) (tree : Tree) (place : Path) (content : Bytes) :
    Put system tree place content (tree.put system place content) := by
  unfold Tree.put System.attempt
  cases answer : system.refuses (.openFile place) with
  | some reason => exact .denied answer
  | none =>
    simp only [SystemCall.apply, Tree.insert_insert]
    split
    · exact .done
    next breaks =>
      split
      next short => exact .brokenOff breaks short
      · exact .done

/-- How content is put where a path leads. -/
inductive Replaced (system : System) (tree : Tree) (path : Path) (content : Bytes) :
    Except Fault Unit × Tree → Prop where
  | failed {fault : Fault} (whole : ∀ reason, fault ≠ .brokenOff reason) :
      Replaced system tree path content (.error fault, tree)
  | landed {landing : Landing} {result : Except Fault Unit × Tree}
      (found : locate tree true path = .ok landing) (writable : landing.Writable)
      (put : Put system tree landing.place content result) :
      Replaced system tree path content result

theorem replaceContent_replaced (system : System) (tree : Tree) (path : Path) (content : Bytes) :
    Replaced system tree path content (tree.replaceContent system path content) := by
  unfold Tree.replaceContent
  split
  next failed =>
    refine .failed fun reason broken => locateFor_whole .create tree path reason ?_
    rw [failed, broken]
  next found => exact .landed (locate_of_create found) trivial (put_put ..)
  · exact .failed (by simp)
  · exact .failed (by simp)
  next old found => exact .landed (locate_of_create found) ⟨old, rfl⟩ (put_put ..)

/-- How a write goes: what is kept while directories come above its path is kept whatever becomes of
the file, and in the end the content is put where the path leads, or a beginning of it. -/
inductive Staged (kept : Tree → Prop) (system : System) (path : Path) (content : Bytes) :
    Except Fault Unit × Tree → Prop where
  | failed {between : Tree} {fault : Fault} (ready : kept between)
      (whole : ∀ reason, fault ≠ .brokenOff reason) :
      Staged kept system path content (.error fault, between)
  | brokenOff {between : Tree} {landing : Landing} {written : Nat} {reason : String}
      (ready : kept between) (found : locate between true path = .ok landing)
      (writable : landing.Writable)
      (breaks : system.breaksOff landing.place = some (written, reason))
      (short : written < content.length) :
      Staged kept system path content
        (.error (.brokenOff reason), between.insert landing.place (.file (content.take written)))
  | done {between : Tree} {landing : Landing} (ready : kept between)
      (found : locate between true path = .ok landing) (writable : landing.Writable) :
      Staged kept system path content (.ok (), between.insert landing.place (.file content))

theorem writeFile_staged {system : System} {tree : Tree} {path : Path} (kept : Tree → Prop)
    (initial : kept tree) (created : kept (tree.createDirectory system path.dropLast).2)
    (content : Bytes) : Staged kept system path content (tree.writeFile system path content) := by
  obtain ⟨prepared, ready, keptBetween, whole⟩ : ∃ prepared : Except Fault Unit × Tree,
      (if path = [] then (.ok (), tree) else tree.createDirectory system path.dropLast) = prepared ∧
      kept prepared.2 ∧ Whole prepared.1 := by
    refine ⟨_, rfl, ?_⟩
    split
    · exact ⟨initial, by simp [Whole]⟩
    · exact ⟨created, makeDirectories_whole _ _ _⟩
  simp only [Tree.writeFile, ready]
  split
  · exact .failed keptBetween fun reason broken => whole reason (congrArg _ broken)
  next between =>
    have replaced := replaceContent_replaced system between path content
    generalize between.replaceContent system path content = result at replaced
    cases replaced with
    | failed whole => exact .failed keptBetween whole
    | landed found writable put =>
      cases put with
      | denied => exact .failed keptBetween (by simp)
      | brokenOff breaks short => exact .brokenOff keptBetween found writable breaks short
      | done => exact .done keptBetween found writable

/-- A file may be put where directories have come on the way to it. -/
theorem Grown.insert_confined {path : Path} {before between : Tree}
    (grown : Grown path before between) (content : Bytes) :
    Confined .writeText path before (between.insert path (.file content)) := by
  constructor
  · intro place changed
    by_cases here : place = path
    · exact here ▸ .target
    · have kept := between.find?_insert_of_ne here (.file content)
      rw [kept] at changed
      rcases grown place with same | ⟨above, missing, created⟩
      · exact absurd same changed
      · exact .above above missing (kept.trans created)
  · intro place target link
    rw [Tree.find?_insert] at link
    split at link
    · cases link
    · split at link
      · cases link
      · exact grown.noLinks place target link

/-- How a write goes where no link stands: directories come above its path, and then it fails, or its
content is put at the path, whole or broken off. -/
inductive Written (path : Path) (content : Bytes) (before : Tree) :
    Except Fault Unit × Tree → Prop where
  | failed {between : Tree} {fault : Fault} (grown : Grown path.dropLast before between)
      (whole : ∀ reason, fault ≠ .brokenOff reason) :
      Written path content before (.error fault, between)
  | brokenOff {between : Tree} {written : Nat} {reason : String}
      (grown : Grown path.dropLast before between) (free : between.find? path ≠ some .directory) :
      Written path content before
        (.error (.brokenOff reason), between.insert path (.file (content.take written)))
  | done {between : Tree} {landing : Landing} (grown : Grown path.dropLast before between)
      (found : locate between true path = .ok landing)
      (free : between.find? path ≠ some .directory) :
      Written path content before (.ok (), between.insert path (.file content))

theorem Landing.Writable.free {tree : Tree} {path : Path} {landing : Landing}
    (writable : landing.Writable) (arrives : Arrives tree path landing) :
    tree.find? path ≠ some .directory := by
  cases arrives with
  | node stands =>
    obtain ⟨_, rfl⟩ := writable
    simp [stands]
  | vacant _ free => simp [free]

theorem writeFile_written {tree : Tree} {path : Path} (clear : tree.Clear path) (system : System)
    (content : Bytes) : Written path content tree (tree.writeFile system path content) := by
  have created := createDirectory_grown (clear.mono (List.dropLast_prefix path)) system
  have staged := writeFile_staged (Grown path.dropLast tree) (.refl _ _) created content
  generalize tree.writeFile system path content = result at staged ⊢
  cases staged with
  | failed grown whole => exact .failed grown whole
  | brokenOff grown found writable =>
    have arrives := locate_arrives (grown.clear clear) found
    rw [arrives.place_eq]
    exact .brokenOff grown (writable.free arrives)
  | done grown found writable =>
    have arrives := locate_arrives (grown.clear clear) found
    rw [arrives.place_eq]
    exact .done grown found (writable.free arrives)

theorem writeFile_confined {tree : Tree} {path : Path} (clear : tree.Clear path) (system : System)
    (content : Bytes) :
    Confined .writeText path tree (tree.writeFile system path content).2 := by
  have onWay := List.dropLast_prefix path
  have written := writeFile_written clear system content
  generalize tree.writeFile system path content = result at written ⊢
  cases written with
  | failed grown => exact (grown.mono onWay).confined _
  | brokenOff grown => exact (grown.mono onWay).insert_confined _
  | done grown => exact (grown.mono onWay).insert_confined content

/-! ### Deleting -/

/-- Nodes may have been taken away at a path and below it. -/
def Shrunk (path : Path) (before after : Tree) : Prop :=
  ∀ place, after.find? place = before.find? place ∨ (path <+: place ∧ after.find? place = none)

theorem Shrunk.refl (path : Path) (tree : Tree) : Shrunk path tree tree := fun _ => .inl rfl

/-- What is left when nodes are taken away stood there before. -/
theorem Shrunk.stood {path place : Path} {before after : Tree} {node : Node}
    (shrunk : Shrunk path before after) (stands : after.find? place = some node) :
    before.find? place = some node := by
  rcases shrunk place with same | ⟨_, gone⟩
  · exact same ▸ stands
  · rw [gone] at stands
    cases stands

theorem Shrunk.confined {path : Path} {before after : Tree} (shrunk : Shrunk path before after) :
    Confined .delete path before after where
  touches place changed := .below rfl ((shrunk place).resolve_left changed).1
  noLinks _ _ link := shrunk.stood link

theorem erase_shrunk (tree : Tree) (path : Path) : Shrunk path tree (tree.erase path) := by
  intro place
  by_cases top : place = []
  · exact .inl (by simp [top])
  · by_cases here : place = path
    · subst here
      exact .inr ⟨List.prefix_rfl, by simp [Tree.find?_erase, top]⟩
    · exact .inl (by simp [Tree.find?_erase, top, here])

theorem foldl_apply_shrunk {tree : Tree} {path : Path} {calls : List SystemCall}
    (removes : ∀ call ∈ calls, call.Removes) (within : ∀ place ∈ removed calls, path <+: place) :
    Shrunk path tree (calls.foldl SystemCall.apply tree) := by
  intro place
  by_cases top : place = []
  · exact .inl (by simp [top])
  · rw [find?_foldl_apply removes tree top]
    split
    next taken => exact .inr ⟨within place taken, rfl⟩
    next => exact .inl rfl

theorem attemptAll_shrunk {system : System} {tree : Tree} {path : Path} {calls : List SystemCall}
    (removes : ∀ call ∈ calls, call.Removes) (within : ∀ place ∈ removed calls, path <+: place) :
    Shrunk path tree (system.attemptAll tree calls).2 := by
  have attempted := attemptAll_attempted system tree calls
  generalize system.attemptAll tree calls = result at attempted
  cases attempted with
  | done => exact foldl_apply_shrunk removes within
  | stopped whole =>
    have onWay : _ <+: calls := ⟨_, whole.symm⟩
    exact foldl_apply_shrunk (fun call among => removes call (onWay.subset among))
      fun place taken => within place ((onWay.filterMap _).subset taken)

section Removal

variable {system : System} {tree : Tree} {path place : Path} {node : Node}

/-- The calls that empty a directory. -/
def emptyingCalls (system : System) (tree : Tree) (place : Path) : List SystemCall :=
  .openDirectory place :: tree.emptying system tree.height place

/-- A tree where nothing is left below a directory. -/
def emptied (system : System) (tree : Tree) (place : Path) : Tree :=
  (emptyingCalls system tree place).foldl SystemCall.apply tree

/-- The calls that take away the node that a path leads to. An empty directory is taken away when its
path still leads there. -/
def removal (system : System) (tree : Tree) (path place : Path) : Node → List SystemCall
  | .directory =>
    emptyingCalls system tree place ++
      match locate (emptied system tree place) false path with
      | .ok (.node _ .directory) => [.removeDirectory place]
      | _ => []
  | .file _ | .link _ => [.unlink place]

theorem emptyingCalls_removes : ∀ call ∈ emptyingCalls system tree place, call.Removes :=
  List.forall_mem_cons.mpr ⟨trivial, Tree.emptying_removes⟩

theorem below_of_mem_emptyingCalls {other : Path}
    (member : other ∈ removed (emptyingCalls system tree place)) :
    place <+: other ∧ other ≠ place :=
  Tree.below_of_mem_removed member

theorem emptied_shrunk (system : System) (tree : Tree) (place : Path) :
    Shrunk place tree (emptied system tree place) :=
  foldl_apply_shrunk emptyingCalls_removes fun _ member => (below_of_mem_emptyingCalls member).1

theorem removal_removes : ∀ call ∈ removal system tree path place node, call.Removes := by
  unfold removal
  split
  · refine List.forall_mem_append.mpr ⟨emptyingCalls_removes, ?_⟩
    split <;> simp [SystemCall.Removes]
  · simp [SystemCall.Removes]
  · simp [SystemCall.Removes]

theorem below_of_mem_removal {other : Path}
    (member : other ∈ removed (removal system tree path place node)) : place <+: other := by
  unfold removal at member
  split at member
  · rw [removed_append] at member
    rcases List.mem_append.mp member with inside | last
    · exact (below_of_mem_emptyingCalls inside).1
    · obtain rfl : other = place := by
        split at last
        · simpa [SystemCall.removed?] using last
        · simp at last
      exact List.prefix_rfl
  all_goals
    obtain rfl : other = place := by simpa [SystemCall.removed?] using member
    exact List.prefix_rfl

/-- Before the last call for a directory, only what stands below it is taken away. -/
theorem below_of_mem_made {made later : List SystemCall} {call : SystemCall} {other : Path}
    (whole : removal system tree path place .directory = made ++ call :: later)
    (member : other ∈ removed made) : place <+: other ∧ other ≠ place := by
  obtain ⟨last, few, ends⟩ : ∃ last : List SystemCall, last.length ≤ 1 ∧
      removal system tree path place .directory = emptyingCalls system tree place ++ last := by
    refine ⟨_, ?_, rfl⟩
    split <;> simp
  rw [ends] at whole
  have before : made <+: emptyingCalls system tree place := by
    rcases List.append_eq_append_iff.mp whole with ⟨more, rfl, rest⟩ | ⟨more, same, -⟩
    · -- Behind the calls that empty it there is one call at most, which was not made.
      have short := congrArg List.length rest
      rw [List.length_append, List.length_cons] at short
      obtain rfl : more = [] := List.length_eq_zero_iff.mp (by omega)
      simp
    · exact ⟨more, same.symm⟩
  exact below_of_mem_emptyingCalls ((before.filterMap _).subset member)

theorem made_removes {made : List SystemCall} (onWay : made <+: removal system tree path place node) :
    ∀ call ∈ made, call.Removes :=
  fun call among => removal_removes call (onWay.subset among)

/-- What is no directory goes by one call, before which none is made. -/
theorem made_eq_nil {made later : List SystemCall} {call : SystemCall} (other : node ≠ .directory)
    (whole : removal system tree path place node = made ++ call :: later) : made = [] := by
  cases node with
  | directory => exact absurd rfl other
  | file | link =>
    obtain ⟨rfl, -, -⟩ : made = [] ∧ call = .unlink place ∧ later = [] := by
      simpa [removal, List.cons_eq_append_iff] using whole
    rfl

/-- Before a call is refused, the node itself is not taken away. -/
theorem not_mem_removed_made {made later : List SystemCall} {call : SystemCall}
    (whole : removal system tree path place node = made ++ call :: later) :
    place ∉ removed made := by
  by_cases directory : node = .directory
  · subst directory
    exact fun member => (below_of_mem_made whole member).2 rfl
  · simp [made_eq_nil directory whole]

/-- An emptied directory is taken away when its path still leads there. -/
theorem removeEmptied_emptied (found : locate tree false path = .ok (.node place .directory)) :
    (emptied system tree place).removeEmptied system path =
      system.attemptAll (emptied system tree place)
        (match locate (emptied system tree place) false path with
          | .ok (.node _ .directory) => [.removeDirectory place]
          | _ => []) := by
  have kept : Preserved (emptied system tree place) tree :=
    fun _ _ => (emptied_shrunk system tree place).stood
  unfold Tree.removeEmptied
  -- Without what stood below, the path leads to the directory as before, or to nothing.
  rcases kept.locate_misses found with same | ⟨directory, name, free⟩ | lost
  · simp only [same]
  · simp only [free, System.attemptAll]
  · simp only [lost, System.attemptAll]

/-- What a path leads to is taken away by calls one after the other. -/
theorem unlink_eq (found : locate tree false path = .ok (.node place node)) :
    tree.unlink system path = system.attemptAll tree (removal system tree path place node) := by
  unfold Tree.unlink
  rw [found]
  cases node with
  | file | link => rfl
  | directory =>
    have last := @removeEmptied_emptied system tree path place found
    unfold removal
    rw [attemptAll_append]
    have attempted := attemptAll_attempted system tree (emptyingCalls system tree place)
    unfold emptyingCalls at attempted ⊢
    dsimp only
    generalize system.attemptAll tree _ = result at attempted ⊢
    cases attempted with
    | done => exact last
    | stopped => rfl

/-- A deletion does nothing, or it makes the calls for what its path leads to. -/
inductive Deleted (system : System) (tree : Tree) (path : Path) :
    Except Fault Unit × Tree → Prop where
  | nothing {fault : Fault} : Deleted system tree path (.error fault, tree)
  | made {place : Path} {node : Node} (found : locate tree false path = .ok (.node place node)) :
      Deleted system tree path (system.attemptAll tree (removal system tree path place node))

theorem delete_deleted (system : System) (tree : Tree) (path : Path) :
    Deleted system tree path (tree.delete system path) := by
  unfold Tree.delete
  split
  · exact .nothing
  · exact .nothing
  · cases found : locate tree false path with
    | error =>
      simp only [Tree.unlink, found]
      exact .nothing
    | ok landing =>
      cases landing with
      | vacant =>
        simp only [Tree.unlink, found]
        exact .nothing
      | node place node =>
        rw [unlink_eq found]
        exact .made found

theorem delete_shrunk (clear : tree.Clear path) (system : System) :
    Shrunk path tree (tree.delete system path).2 := by
  have deleted := delete_deleted system tree path
  generalize tree.delete system path = result at deleted ⊢
  cases deleted with
  | nothing => exact .refl _ _
  | made found =>
    cases locate_arrives clear found with
    | node => exact attemptAll_shrunk removal_removes fun _ => below_of_mem_removal

end Removal

end Files

end ScriptSandbox
