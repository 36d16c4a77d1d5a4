import ScriptSandbox.Proofs.Files.Confinement
import ScriptSandbox.Proofs.Files.Listing

/-!
# Files outside the root stay secret

Two trees are alike for a root when they have the same nodes at it, below it and on the way to it.
Without consent every operation on files keeps them alike and has the same outcome on both, so a run
of host calls gets the same replies whatever the rest of the filesystem holds.
-/
namespace ScriptSandbox.Files

/-- A path is in the root or leads there. -/
def Path.Near (root path : Path) : Prop := root <+: path ∨ path <+: root

theorem Path.Near.mono {root path above : Path} (near : root.Near path) (onWay : above <+: path) :
    root.Near above := by
  rcases near with inside | leads
  · exact List.prefix_or_prefix_of_prefix inside onWay
  · exact .inr (onWay.trans leads)

/-- Two trees that are the same at a root, below it and on the way to it, without a link there. -/
structure Alike (root : Path) (left right : Tree) : Prop where
  agree : ∀ place, root.Near place → left.find? place = right.find? place
  noLinks : ∀ place target, root.Near place → left.find? place ≠ some (.link target)

section Operations

variable {root path : Path} {left right : Tree} {system : System}

theorem Alike.clear (alike : Alike root left right) (near : root.Near path) : left.Clear path :=
  fun place target onWay => alike.noLinks place target (near.mono onWay)

theorem Alike.locateFor (alike : Alike root left right) (near : root.Near path) (aim : Aim) :
    locateFor aim left path = locateFor aim right path :=
  locateFor_congr aim (fun place onWay => alike.agree place (near.mono onWay)) (alike.clear near)

theorem Alike.locate (alike : Alike root left right) (near : root.Near path) (followLast : Bool) :
    locate left followLast path = locate right followLast path :=
  alike.locateFor near (.look followLast)

/-! ### Changes at one path -/

theorem Alike.insert (alike : Alike root left right) (place : Path) (node : Node)
    (noLink : ∀ target, node ≠ .link target) :
    Alike root (left.insert place node) (right.insert place node) where
  agree other near := by simp only [Tree.find?_insert, alike.agree other near]
  noLinks other target near := by
    rw [Tree.find?_insert]
    split
    · simp
    · split
      · simpa using noLink target
      · exact alike.noLinks other target near

theorem Alike.erase (alike : Alike root left right) (place : Path) :
    Alike root (left.erase place) (right.erase place) where
  agree other near := by simp only [Tree.find?_erase, alike.agree other near]
  noLinks other target near link :=
    alike.noLinks other target near ((erase_shrunk left place).stood link)

theorem Alike.apply (alike : Alike root left right) (call : SystemCall) :
    Alike root (call.apply left) (call.apply right) := by
  cases call with
  | makeDirectory place | openFile place => exact alike.insert place _ (by simp)
  | openDirectory => exact alike
  | unlink place | removeDirectory place => exact alike.erase place

theorem Alike.foldl (alike : Alike root left right) (calls : List SystemCall) :
    Alike root (calls.foldl SystemCall.apply left) (calls.foldl SystemCall.apply right) := by
  induction calls generalizing left right with
  | nil => exact alike
  | cons call later ih => exact ih (alike.apply call)

/-- Trees that an operation gave or failed to give, alike or for the same fault. -/
inductive AlikeResults (root : Path) : Except Fault Tree → Except Fault Tree → Prop where
  | failed (fault : Fault) : AlikeResults root (.error fault) (.error fault)
  | changed {left right : Tree} (alike : Alike root left right) :
      AlikeResults root (.ok left) (.ok right)

theorem AlikeResults.split {first second : Except Fault Tree}
    (results : AlikeResults root first second) :
    (∃ fault, first = .error fault ∧ second = .error fault) ∨
      ∃ left right, first = .ok left ∧ second = .ok right ∧ Alike root left right := by
  cases results with
  | failed fault => exact .inl ⟨fault, rfl, rfl⟩
  | changed alike => exact .inr ⟨_, _, rfl, rfl, alike⟩

/-- An operation went the same way on two trees and left them alike. -/
structure SameWay (root : Path) {ε α : Type} (left right : Except ε α × Tree) : Prop where
  outcome : left.1 = right.1
  alike : Alike root left.2 right.2

theorem SameWay.split {ε α : Type} {first second : Except ε α × Tree}
    (same : SameWay root first second) :
    ∃ outcome left right, first = (outcome, left) ∧ second = (outcome, right) ∧
      Alike root left right :=
  ⟨first.1, first.2, second.2, rfl, by rw [same.outcome], same.alike⟩

/-! ### Calls to the operating system -/

variable (system) in
theorem Alike.attempt (alike : Alike root left right) (call : SystemCall) :
    AlikeResults root (system.attempt left call) (system.attempt right call) := by
  unfold System.attempt
  split
  · exact .failed _
  · exact .changed (alike.apply call)

theorem Alike.attemptAll (alike : Alike root left right) (calls : List SystemCall) :
    SameWay root (system.attemptAll left calls) (system.attemptAll right calls) := by
  induction calls generalizing left right with
  | nil => exact ⟨rfl, alike⟩
  | cons call later ih =>
    simp only [System.attemptAll]
    rcases (alike.attempt system call).split with
      ⟨fault, first, second⟩ | ⟨_, _, first, second, alikeAfter⟩
    · simp only [first, second]
      exact ⟨rfl, alike⟩
    · simp only [first, second]
      exact ih alikeAfter

/-! ### Operations -/

theorem Alike.readText (alike : Alike root left right) (near : root.Near path) :
    left.readText path = right.readText path := by
  simp only [Tree.readText, Tree.readBytes, alike.locate near]

theorem Alike.probe (alike : Alike root left right) (near : root.Near path) :
    left.probe path = right.probe path := by
  simp only [Tree.probe, alike.locate near]

theorem Alike.list (alike : Alike root left right) (inside : root <+: path) :
    left.list path = right.list path := by
  unfold Tree.list
  rw [alike.locate (.inl inside)]
  split
  · rfl
  · rfl
  next found =>
    rw [← alike.locate (.inl inside)] at found
    cases locate_arrives (alike.clear (.inl inside)) found with
    | node _ =>
      -- What a listing shows lies below the path, so it lies within the root as well.
      have below (name : String) : root <+: path ++ [name] :=
        inside.trans (List.prefix_append _ _)
      rw [Tree.listed_congr fun name => alike.agree _ (.inl (below name))]
  · rfl

variable (system) in
theorem Alike.makeDirectory (alike : Alike root left right) (near : root.Near path) :
    AlikeResults root (left.makeDirectory system path) (right.makeDirectory system path) := by
  unfold Tree.makeDirectory
  rw [alike.locate near]
  split
  · exact .failed _
  · exact .failed _
  · exact alike.attempt system _

theorem Alike.settle (alike : Alike root left right) (near : root.Near path) (fault : Fault) :
    SameWay root (left.settle path fault) (right.settle path fault) := by
  unfold Tree.settle Tree.isDirectory
  rw [alike.locate near]
  split
  · exact ⟨rfl, alike⟩
  · exact ⟨rfl, alike⟩

theorem Alike.makeDirectories (alike : Alike root left right) (names : List String)
    (near : root.Near names.reverse) :
    SameWay root (left.makeDirectories system names) (right.makeDirectories system names) := by
  induction names with
  | nil => exact ⟨rfl, alike⟩
  | cons name above ih =>
    have higher := ih (near.mono (by simp))
    simp only [Tree.makeDirectories]
    rcases (alike.makeDirectory system near).split with
      ⟨fault, first, second⟩ | ⟨_, _, first, second, made⟩
    · simp only [first, second]
      by_cases missing : fault = .notFound
      · -- The directory above comes first, and then this one is tried once more.
        subst missing
        obtain ⟨outcome, leftAbove, rightAbove, first, second, alikeAbove⟩ := higher.split
        simp only [first, second]
        cases outcome with
        | error => exact ⟨rfl, alikeAbove⟩
        | ok =>
          rcases (alikeAbove.makeDirectory system near).split with
            ⟨fault, first, second⟩ | ⟨_, _, first, second, made⟩
          · simp only [first, second]
            exact alikeAbove.settle near fault
          · simp only [first, second]
            exact ⟨rfl, made⟩
      · cases fault with
        | notFound => exact absurd rfl missing
        | _ => exact alike.settle near _
    · simp only [first, second]
      exact ⟨rfl, made⟩

theorem Alike.createDirectory (alike : Alike root left right) (near : root.Near path) :
    SameWay root (left.createDirectory system path) (right.createDirectory system path) :=
  alike.makeDirectories path.reverse (by simpa using near)

theorem Alike.put (alike : Alike root left right) (place : Path) (content : Bytes) :
    SameWay root (left.put system place content) (right.put system place content) := by
  unfold Tree.put
  rcases (alike.attempt system (.openFile place)).split with
    ⟨fault, first, second⟩ | ⟨_, _, first, second, opened⟩
  · simp only [first, second]
    exact ⟨rfl, alike⟩
  · have full (stored : Bytes) := opened.insert place (.file stored) (by simp)
    simp only [first, second]
    split
    · exact ⟨rfl, full _⟩
    · split
      · exact ⟨rfl, full _⟩
      · exact ⟨rfl, full _⟩

theorem Alike.replaceContent (alike : Alike root left right) (near : root.Near path)
    (content : Bytes) :
    SameWay root (left.replaceContent system path content)
      (right.replaceContent system path content) := by
  unfold Tree.replaceContent
  rw [alike.locateFor near]
  split
  · exact ⟨rfl, alike⟩
  · exact alike.put _ _
  · exact ⟨rfl, alike⟩
  · exact ⟨rfl, alike⟩
  · exact alike.put _ _

theorem Alike.writeFile (alike : Alike root left right) (near : root.Near path)
    (content : Bytes) :
    SameWay root (left.writeFile system path content) (right.writeFile system path content) := by
  have prepared :
      SameWay root (if path = [] then (.ok (), left) else left.createDirectory system path.dropLast)
        (if path = [] then (.ok (), right)
          else right.createDirectory system path.dropLast) := by
    split
    · exact ⟨rfl, alike⟩
    · exact alike.createDirectory (near.mono (List.dropLast_prefix _))
  obtain ⟨outcome, leftAfter, rightAfter, first, second, alikeAfter⟩ := prepared.split
  simp only [Tree.writeFile, first, second]
  cases outcome with
  | error => exact ⟨rfl, alikeAfter⟩
  | ok => exact alikeAfter.replaceContent near content

/-- In both trees the same calls take a node away. -/
theorem Alike.removal (alike : Alike root left right) (inside : root <+: path) (node : Node) :
    removal system left path path node = removal system right path path node := by
  have emptying : emptyingCalls system left path = emptyingCalls system right path := by
    unfold emptyingCalls
    rw [Tree.emptying_congr (fun place below => alike.agree place (.inl (inside.trans below)))
      (left.reach_height path) (right.reach_height path)]
  unfold Files.removal emptied
  rw [emptying, (alike.foldl _).locate (.inl inside)]

theorem Alike.unlink (alike : Alike root left right) (inside : root <+: path) :
    SameWay root (left.unlink system path) (right.unlink system path) := by
  have same := alike.locate (.inl inside) false
  cases found : Files.locate left false path with
  | error fault =>
    simp only [Tree.unlink, ← same, found]
    exact ⟨rfl, alike⟩
  | ok landing =>
    cases locate_arrives (alike.clear (.inl inside)) found with
    | vacant =>
      simp only [Tree.unlink, ← same, found]
      exact ⟨rfl, alike⟩
    | node =>
      rw [unlink_eq found, unlink_eq (same ▸ found), alike.removal inside]
      exact alike.attemptAll _

theorem Alike.delete (alike : Alike root left right) (inside : root <+: path) :
    SameWay root (left.delete system path) (right.delete system path) := by
  unfold Tree.delete
  rw [alike.locate (.inl inside)]
  split
  · exact ⟨rfl, alike⟩
  · exact ⟨rfl, alike⟩
  · exact alike.unlink inside

end Operations

/-! ### Operations within the boundary -/

/-- An operation within the boundary had the same effect on two trees and left them alike. -/
structure SameEffect (root : Path) {α : Type} (left right : Effect α) : Prop where
  outcome : left.outcome = right.outcome
  alike : Alike root left.tree right.tree

section Boundary

variable {boundary : Boundary} {left right : Tree}

private theorem perform_same {α : Type} {requested : String} {action : FileAction}
    {onLeft onRight : Path → Except ScriptSandbox.Fault α × Tree}
    (noConsent : boundary.consent = none) (alike : Alike boundary.root left right)
    (same : ∀ path, boundary.root <+: path → SameWay boundary.root (onLeft path) (onRight path)) :
    SameEffect boundary.root (boundary.perform left requested action onLeft)
      (boundary.perform right requested action onRight) := by
  unfold Boundary.perform
  split
  · exact ⟨rfl, alike⟩
  next path asked ruling =>
    have resolved : (boundary.resolve requested action).outcome = .ok path := by rw [ruling]
    have inside := (Boundary.permits_of_resolve resolved).within noConsent
    obtain ⟨outcome, alikeAfter⟩ := same path inside
    exact ⟨outcome, alikeAfter⟩

private theorem SameWay.lift {root : Path} {α : Type} {left right : Except Fault α × Tree}
    (same : SameWay root left right) :
    SameWay root (Boundary.lift left.1, left.2) (Boundary.lift right.1, right.2) :=
  ⟨congrArg Boundary.lift same.outcome, same.alike⟩

private theorem SameEffect.fileOutcome {root : Path} {α : Type} {first second : Effect α}
    (same : SameEffect root first second) (toJson : α → Json) :
    (Bridge.fileOutcome toJson first).answer = (Bridge.fileOutcome toJson second).answer ∧
      Alike root (Bridge.fileOutcome toJson first).files
        (Bridge.fileOutcome toJson second).files :=
  ⟨by simp only [Bridge.fileOutcome, same.outcome], same.alike⟩

theorem Alike.runFile (noConsent : boundary.consent = none) (alike : Alike boundary.root left right)
    (system : System) (action : FileAction) (call : Bridge.Call) :
    (Bridge.runFile boundary system left action call).answer =
        (Bridge.runFile boundary system right action call).answer ∧
      Alike boundary.root (Bridge.runFile boundary system left action call).files
        (Bridge.runFile boundary system right action call).files := by
  unfold Bridge.runFile
  split
  · exact ⟨rfl, alike⟩
  · cases action with
    | readText =>
      refine (perform_same noConsent alike fun path inside => ?_).fileOutcome _
      exact ⟨congrArg Boundary.lift (alike.readText (.inl inside)), alike⟩
    | listDirectory =>
      refine (perform_same noConsent alike fun path inside => ?_).fileOutcome _
      exact ⟨congrArg Boundary.lift (alike.list inside), alike⟩
    | «exists» =>
      refine (perform_same noConsent alike fun path inside => ?_).fileOutcome _
      exact ⟨congrArg Boundary.lift (alike.probe (.inl inside)), alike⟩
    | writeText =>
      refine (perform_same noConsent alike fun path inside => ?_).fileOutcome _
      exact (alike.writeFile (.inl inside) _).lift
    | createDirectory =>
      refine (perform_same noConsent alike fun path inside => ?_).fileOutcome _
      exact (alike.createDirectory (.inl inside)).lift
    | delete =>
      refine (perform_same noConsent alike fun path inside => ?_).fileOutcome _
      -- The root is the same in both trees, and so is the refusal to delete it.
      split
      · exact ⟨rfl, alike⟩
      · exact (alike.delete inside).lift

end Boundary

/-! ### Payloads -/

open Bridge

/-- Two states of one run over alike trees. -/
structure Indistinct (root : Path) (left right : State) : Prop where
  run : left.run = right.run
  alike : Alike root left.world.files right.world.files

private theorem conclude_indistinct {root : Path} {left right : State}
    (indistinct : Indistinct root left right) (answer : Answer) :
    (conclude left answer).1 = (conclude right answer).1 ∧
      Indistinct root (conclude left answer).2 (conclude right answer).2 := by
  cases answer with
  | failed fault => exact ⟨rfl, by simp only [conclude, indistinct.run], indistinct.alike⟩
  | _ => exact ⟨rfl, indistinct⟩

theorem dispatch_indistinct {host : Host} (noConsent : host.access.boundary.consent = none)
    {left right : State} (indistinct : Indistinct host.access.boundary.root left right)
    (payload : Bytes) :
    (host.dispatch left payload).1 = (host.dispatch right payload).1 ∧
      Indistinct host.access.boundary.root (host.dispatch left payload).2
        (host.dispatch right payload).2 := by
  unfold Host.dispatch
  rw [indistinct.run]
  split
  · exact ⟨rfl, indistinct⟩
  next route call _ =>
    cases route with
    | handler run => exact conclude_indistinct indistinct _
    | tools => exact conclude_indistinct indistinct _
    | log =>
      simp only [Host.perform, indistinct.run]
      apply conclude_indistinct
      exact ⟨rfl, indistinct.alike⟩
    | builtin method =>
      -- Only the operations on files look at the files at all.
      have same (time : Nat) : (method.run host.access time left.world.files call).answer =
            (method.run host.access time right.world.files call).answer ∧
          Alike host.access.boundary.root (method.run host.access time left.world.files call).files
            (method.run host.access time right.world.files call).files := by
        cases method with
        | file action => exact indistinct.alike.runFile noConsent _ action call
        | add | subtract | multiply | divide => exact ⟨rfl, indistinct.alike⟩
        | http action =>
          exact ⟨runHttp_answer_congr _ _ _ _ _, by simpa [Builtin.run] using indistinct.alike⟩
      simp only [Host.perform, indistinct.run, (same _).1]
      apply conclude_indistinct
      exact ⟨rfl, (same _).2⟩

theorem transcript_indistinct {host : Host} (noConsent : host.access.boundary.consent = none)
    (payloads : List Bytes) {left right : State}
    (indistinct : Indistinct host.access.boundary.root left right) :
    host.transcript left payloads = host.transcript right payloads := by
  induction payloads generalizing left right with
  | nil => rfl
  | cons payload later ih =>
    obtain ⟨ending, next⟩ := dispatch_indistinct noConsent indistinct payload
    simp only [Host.transcript, ending, next.run, ih next]

theorem serve_indistinct {host : Host} (noConsent : host.access.boundary.consent = none)
    (payloads : List Bytes) {left right : State}
    (indistinct : Indistinct host.access.boundary.root left right) :
    Indistinct host.access.boundary.root (host.serve left payloads)
      (host.serve right payloads) := by
  induction payloads generalizing left right with
  | nil => exact indistinct
  | cons payload later ih => exact ih (dispatch_indistinct noConsent indistinct payload).2

/-- A root that is a directory, reached without links, with no link below it. -/
structure Tree.Settled (tree : Tree) (root : Path) : Prop where
  reached : ∀ place, place <+: root → tree.find? place = some .directory
  noLinks : ∀ place target, root <+: place → tree.find? place ≠ some (.link target)

/-- Two trees with the same nodes at a root and below it. -/
def Tree.SameWithin (root : Path) (left right : Tree) : Prop :=
  ∀ place, root <+: place → left.find? place = right.find? place

/-- Without consent nothing outside the root shows: over two filesystems that are the same within
the root and differ anywhere else, the same payloads get the same replies, log lines and refusals
one by one, and the filesystems stay the same within the root after each of them. -/
theorem files_outside_root_stay_secret (host : Host)
    (noConsent : host.access.boundary.consent = none) (run : Run) (left right : World)
    (leftSettled : left.files.Settled host.access.boundary.root)
    (rightSettled : right.files.Settled host.access.boundary.root)
    (same : Tree.SameWithin host.access.boundary.root left.files right.files)
    (payloads : List Bytes) :
    host.transcript ⟨left, run⟩ payloads = host.transcript ⟨right, run⟩ payloads ∧
      ∀ earlier, earlier <+: payloads → Tree.SameWithin host.access.boundary.root
        (host.serve ⟨left, run⟩ earlier).world.files
        (host.serve ⟨right, run⟩ earlier).world.files := by
  have indistinct : Indistinct host.access.boundary.root ⟨left, run⟩ ⟨right, run⟩ := by
    -- On the way to the root both trees have nothing but directories.
    refine ⟨rfl, fun place near => ?_, fun place target near => ?_⟩
    · rcases near with inside | leads
      · exact same place inside
      · rw [leftSettled.reached place leads, rightSettled.reached place leads]
    · rcases near with inside | leads
      · exact leftSettled.noLinks place target inside
      · simp [leftSettled.reached place leads]
  refine ⟨transcript_indistinct noConsent payloads indistinct, fun earlier _ place inside => ?_⟩
  exact (serve_indistinct noConsent earlier indistinct).alike.agree place (.inl inside)

/-- The calls that read the secret, ask for it, list the root and write the secret. -/
def pryingPayloads : List Bytes :=
  ["\x7b\"method\":\"fs.readText\",\"args\":[\"../secret\"]\x7d",
   "\x7b\"method\":\"fs.exists\",\"args\":[\"x/../../secret\"]\x7d",
   "\x7b\"method\":\"fs.listDirectory\",\"args\":[]\x7d",
   "\x7b\"method\":\"fs.writeText\",\"args\":[\"../secret\",\"hi\"]\x7d"].map Utf8.ofString

theorem boxTree_settled (secret : Bytes) : (boxTree secret).Settled ["box"] where
  reached place leads := by
    rcases List.prefix_cons_iff.mp leads with rfl | ⟨rest, rfl, nothing⟩
    · rfl
    · rw [List.prefix_nil.mp nothing]
      simp [boxTree_find?]
  noLinks place target _ := boxTree_noLinks secret place target

theorem secret_next_to_box_does_not_show :
    boxHost.access.boundary.consent = none ∧ (boxTree [1]).Settled ["box"] ∧
      (boxTree [2]).Settled ["box"] ∧
      Tree.SameWithin ["box"] (boxTree [1]) (boxTree [2]) ∧
      (boxTree [1]).find? ["secret"] ≠ (boxTree [2]).find? ["secret"] ∧
      boxHost.transcript ⟨{ files := boxTree [1] }, {}⟩ pryingPayloads =
        boxHost.transcript ⟨{ files := boxTree [2] }, {}⟩ pryingPayloads := by
  have same : Tree.SameWithin ["box"] (boxTree [1]) (boxTree [2]) := by
    intro place inside
    have other : place ≠ ["secret"] := by
      rintro rfl
      simp at inside
    simp [boxTree_find?, other]
  have differ : (boxTree [1]).find? ["secret"] ≠ (boxTree [2]).find? ["secret"] := by
    simp [boxTree_find?]
  refine ⟨rfl, boxTree_settled [1], boxTree_settled [2], same, differ, ?_⟩
  exact (files_outside_root_stay_secret boxHost rfl {} { files := boxTree [1] }
    { files := boxTree [2] } (boxTree_settled [1]) (boxTree_settled [2]) same pryingPayloads).1

end ScriptSandbox.Files
