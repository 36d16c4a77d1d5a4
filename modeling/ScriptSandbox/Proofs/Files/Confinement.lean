import ScriptSandbox.Proofs.Bridge.Serving
import ScriptSandbox.Proofs.Files.Change
import ScriptSandbox.Proofs.Files.Resolution

/-!
# Scripts stay within their boundary

Where no link stands in the way, each payload changes the files at most as one operation may at the
path that its text resolves to, and this path lies within the root unless consent was given. Without
consent a run leaves alone what is outside the root, whatever it sends.
-/
namespace ScriptSandbox.Files

/-! ### The boundary -/

namespace Boundary

/-- No link stands where scripts may get to: at the root, below it and on the way to it, and
anywhere when someone may consent to more. -/
def LinkFree (boundary : Boundary) (tree : Tree) : Prop :=
  ∀ place target, boundary.consent.isSome ∨ boundary.root <+: place ∨ place <+: boundary.root →
    tree.find? place ≠ some (.link target)

/-- A path may be used: it lies within the root, or the consent function approves this text for this
action. -/
def Permits (boundary : Boundary) (requested : String) (action : FileAction) (path : Path) : Prop :=
  boundary.root <+: path ∨
    ∃ approves, boundary.consent = some approves ∧ approves requested action = true

theorem permits_of_resolve {boundary : Boundary} {requested : String} {action : FileAction}
    {path : Path} (resolved : (boundary.resolve requested action).outcome = .ok path) :
    boundary.Permits requested action path := by
  obtain ⟨_, _, _, permitted⟩ :=
    (boundary.resolve_resolved requested action).allowed_iff.mp resolved
  exact permitted

/-- Without consent only paths within the root may be used. -/
theorem Permits.within {boundary : Boundary} {requested : String} {action : FileAction} {path : Path}
    (permitted : boundary.Permits requested action path) (noConsent : boundary.consent = none) :
    boundary.root <+: path :=
  permitted.resolve_right fun ⟨_, consent, _⟩ => by simp [noConsent] at consent

theorem clear_of_permits {boundary : Boundary} {tree : Tree} {requested : String}
    {action : FileAction} {path : Path} (linkFree : boundary.LinkFree tree)
    (permitted : boundary.Permits requested action path) : tree.Clear path := by
  intro place target onWay
  apply linkFree
  rcases permitted with inside | ⟨approves, consent, _⟩
  · -- A place on the way to a path in the root is itself in the root or on the way to it.
    exact .inr (List.prefix_or_prefix_of_prefix inside onWay)
  · exact .inl (by simp [consent])

/-- Where no link is made, a tree stays free of them. -/
theorem LinkFree.mono {boundary : Boundary} {before after : Tree}
    (linkFree : boundary.LinkFree before)
    (noLinks : ∀ place target, after.find? place = some (.link target) →
      before.find? place = some (.link target)) : boundary.LinkFree after :=
  fun place target reach link => linkFree place target reach (noLinks place target link)

/-! ### Running operations -/

theorem perform_resolved {α : Type} {boundary : Boundary} {requested : String}
    {action : FileAction} {path : Path}
    (resolved : (boundary.resolve requested action).outcome = .ok path) (tree : Tree)
    (operation : Path → Except ScriptSandbox.Fault α × Tree) :
    (boundary.perform tree requested action operation).outcome = (operation path).1 ∧
      (boundary.perform tree requested action operation).tree = (operation path).2 := by
  unfold perform
  split
  next failed => simp [failed] at resolved
  next found =>
    obtain rfl : _ = path := by simpa [found] using resolved
    exact ⟨rfl, rfl⟩

theorem perform_refused {α : Type} {boundary : Boundary} {requested : String}
    {action : FileAction} {fault : ScriptSandbox.Fault}
    (refused : (boundary.resolve requested action).outcome = .error fault) (tree : Tree)
    (operation : Path → Except ScriptSandbox.Fault α × Tree) :
    (boundary.perform tree requested action operation).outcome = .error fault ∧
      (boundary.perform tree requested action operation).tree = tree := by
  unfold perform
  split
  next found =>
    obtain rfl : _ = fault := by simpa [found] using refused
    exact ⟨rfl, rfl⟩
  next found => simp [found] at refused

/-- What an operation keeps at the path that a text resolves to is kept when it is run. -/
theorem perform_keeps {α : Type} {boundary : Boundary} {tree : Tree} {requested : String}
    {action : FileAction} {operation : Path → Except ScriptSandbox.Fault α × Tree}
    (kept : Tree → Prop) (initial : kept tree)
    (step : ∀ path, (boundary.resolve requested action).outcome = .ok path → kept (operation path).2) :
    kept (boundary.perform tree requested action operation).tree := by
  cases resolved : (boundary.resolve requested action).outcome with
  | error fault => rwa [(perform_refused resolved tree operation).2]
  | ok path =>
    rw [(perform_resolved resolved tree operation).2]
    exact step path resolved

/-! ### Operations within the boundary -/

/-- What an operation within the boundary may do to the files: nothing, or a confined change at the
path that the text resolves to. -/
inductive Effected (boundary : Boundary) (requested : String) (action : FileAction)
    (before after : Tree) : Prop where
  | unchanged (same : after = before)
  | changed {path : Path} (writes : action.changesFiles = true)
      (resolved : (boundary.resolve requested action).outcome = .ok path)
      (confined : Confined action path before after)

private theorem perform_effected {α : Type} {boundary : Boundary} {tree : Tree} {requested : String}
    {action : FileAction} {operation : Path → Except ScriptSandbox.Fault α × Tree}
    (writes : action.changesFiles = true) (linkFree : boundary.LinkFree tree)
    (confined : ∀ path, tree.Clear path → Confined action path tree (operation path).2) :
    boundary.Effected requested action tree
      (boundary.perform tree requested action operation).tree := by
  refine perform_keeps (boundary.Effected requested action tree) (.unchanged rfl) ?_
  intro path resolved
  have clear := clear_of_permits linkFree (permits_of_resolve resolved)
  exact .changed writes resolved (confined path clear)

section Changing

variable {boundary : Boundary} {tree : Tree}

theorem writeText_effected (linkFree : boundary.LinkFree tree) (system : System)
    (requested content : String) :
    boundary.Effected requested .writeText tree
      (boundary.writeText system tree requested content).tree :=
  perform_effected rfl linkFree fun _ clear => writeFile_confined clear system _

theorem createDirectory_effected (linkFree : boundary.LinkFree tree) (system : System)
    (requested : String) :
    boundary.Effected requested .createDirectory tree
      (boundary.createDirectory system tree requested).tree :=
  perform_effected rfl linkFree fun _ clear => (createDirectory_grown clear system).confined _

theorem delete_effected (linkFree : boundary.LinkFree tree) (system : System)
    (requested : String) :
    boundary.Effected requested .delete tree (boundary.delete system tree requested).tree := by
  refine perform_effected rfl linkFree fun path clear => ?_
  split
  · exact .refl _ _ _
  · exact (delete_shrunk clear system).confined

end Changing

/-- Reading, listing and probing leave the files as they are. -/
private theorem perform_unchanged {α : Type} (boundary : Boundary) (tree : Tree)
    (requested : String) (action : FileAction) (outcome : Path → Except ScriptSandbox.Fault α) :
    (boundary.perform tree requested action fun path => (outcome path, tree)).tree = tree :=
  perform_keeps (· = tree) rfl fun _ _ => rfl

end Boundary

open Bridge

theorem runFile_effected {boundary : Boundary} {tree : Tree} (linkFree : boundary.LinkFree tree)
    (system : System) {action : FileAction} {call : Call} {requested : String}
    (named : pathArg call action = .ok requested) :
    boundary.Effected requested action tree (runFile boundary system tree action call).files := by
  unfold runFile
  simp only [named]
  cases action with
  | writeText => exact Boundary.writeText_effected linkFree system _ _
  | delete => exact Boundary.delete_effected linkFree system _
  | createDirectory => exact Boundary.createDirectory_effected linkFree system _
  | readText | listDirectory | «exists» =>
    simp only [fileOutcome, Boundary.readText, Boundary.listDirectory, Boundary.probe,
      Boundary.perform_unchanged]
    exact .unchanged rfl

/-! ### Payloads -/

/-- What a payload may do to the files: nothing, or what the operation that it asks for may do
within the boundary. -/
inductive Contained (host : Host) (before : State) (payload : Bytes) (after : Tree) : Prop where
  | unchanged (same : after = before.world.files)
  | changed {action : FileAction} {requested : String} {path : Path}
      (asks : host.fileRequest? before payload = some (action, requested))
      (writes : action.changesFiles = true)
      (resolved : (host.access.boundary.resolve requested action).outcome = .ok path)
      (permitted : host.access.boundary.Permits requested action path)
      (confined : Confined action path before.world.files after)

theorem dispatch_contained {host : Host} {before : State}
    (linkFree : host.access.boundary.LinkFree before.world.files) (payload : Bytes) :
    Contained host before payload (host.dispatch before payload).2.world.files := by
  rw [Host.dispatch_files]
  cases call : host.fileCall? before payload with
  | none => exact .unchanged rfl
  | some request =>
    obtain ⟨action, call'⟩ := request
    cases named : pathArg call' action with
    | error fault => exact .unchanged (by simp [runFile, named])
    | ok requested =>
      have asks : host.fileRequest? before payload = some (action, requested) :=
        Host.fileRequest?_eq_some_iff.mpr ⟨call', call, named⟩
      cases runFile_effected linkFree (host.system before) named with
      | unchanged same => exact .unchanged same
      | changed writes resolved confined =>
        exact .changed asks writes resolved (Boundary.permits_of_resolve resolved) confined

theorem Contained.noLinks {host : Host} {before : State} {payload : Bytes} {after : Tree}
    (contained : Contained host before payload after) (place : Path) (target : String)
    (link : after.find? place = some (.link target)) :
    before.world.files.find? place = some (.link target) := by
  cases contained with
  | unchanged same => exact same ▸ link
  | changed _ _ _ _ confined => exact confined.noLinks place target link

theorem serve_linkFree {host : Host} {start : State}
    (linkFree : host.access.boundary.LinkFree start.world.files) (payloads : List Bytes) :
    host.access.boundary.LinkFree (host.serve start payloads).world.files := by
  apply host.serve_induction (fun state => host.access.boundary.LinkFree state.world.files) linkFree
  intro state payload kept
  exact kept.mono (dispatch_contained kept payload).noLinks

/-- Without consent, a payload leaves what is neither in the root nor a missing directory above
it. -/
theorem Contained.outside {host : Host} {before : State} {payload : Bytes} {after : Tree}
    (contained : Contained host before payload after)
    (noConsent : host.access.boundary.consent = none)
    {place : Path} (outside : ¬host.access.boundary.root <+: place)
    (present : place <+: host.access.boundary.root → before.world.files.find? place ≠ none) :
    after.find? place = before.world.files.find? place := by
  cases contained with
  | unchanged same => rw [same]
  | changed _ _ _ permitted confined =>
    have inside := permitted.within noConsent
    refine Classical.byContradiction fun changed => ?_
    cases confined.touches place changed with
    | target => exact outside inside
    | below _ below => exact outside (inside.trans below)
    | above above missing _ =>
      -- The root and the place both lie on the way to the path, so one leads to the other.
      rcases List.prefix_or_prefix_of_prefix inside above with within | onWay
      · exact outside within
      · exact present onWay missing

/-- Scripts stay within their boundary: each payload of a run does to the files what its operation
may do at the path that its text resolves to, which is within the root or approved for this very
text and operation; no link is made; and without consent nothing outside the root changes but
directories above it that were missing. -/
theorem served_payloads_stay_contained (host : Host) (start : State)
    (linkFree : host.access.boundary.LinkFree start.world.files) (payloads : List Bytes) :
    (∀ earlier payload, earlier ++ [payload] <+: payloads →
      Contained host (host.serve start earlier) payload
          (host.serve start (earlier ++ [payload])).world.files ∧
        ∀ place target,
          (host.serve start (earlier ++ [payload])).world.files.find? place = some (.link target) →
          (host.serve start earlier).world.files.find? place = some (.link target)) ∧
    (host.access.boundary.consent = none → ∀ place, ¬host.access.boundary.root <+: place →
      ¬(place <+: host.access.boundary.root ∧ start.world.files.find? place = none) →
      (host.serve start payloads).world.files.find? place = start.world.files.find? place) := by
  constructor
  · intro earlier payload _
    have contained := dispatch_contained (serve_linkFree linkFree earlier) payload
    rw [← Host.serve_append] at contained
    exact ⟨contained, contained.noLinks⟩
  · intro noConsent place outside present
    -- That no link has come is part of the invariant: each payload is contained because of it.
    refine (host.serve_induction (fun state =>
      host.access.boundary.LinkFree state.world.files ∧
        state.world.files.find? place = start.world.files.find? place) ⟨linkFree, rfl⟩ ?_
      payloads).2
    rintro state payload ⟨free, same⟩
    have contained := dispatch_contained free payload
    refine ⟨free.mono contained.noLinks, ?_⟩
    rw [← same]
    exact contained.outside noConsent outside fun onWay missing => present ⟨onWay, same ▸ missing⟩

/-- A host whose scripts may use the directory `box`, with nobody to consent to more. -/
def boxHost : Host := ⟨{}, ⟨⟨["box"], none⟩, .ofPolicy {} .offline, fun _ => {}⟩⟩

/-- The payload of a call. -/
def callPayload (method : String) (args : List Json) : Bytes :=
  Json.toBytes (.object [("args", .array args), ("method", .string method)])

/-- The directory `box` next to a file with a secret. -/
def boxTree (secret : Bytes) : Tree :=
  (Tree.empty.insert ["box"] .directory).insert ["secret"] (.file secret)

theorem boxTree_find? (secret : Bytes) (path : Path) :
    (boxTree secret).find? path =
      if path = [] ∨ path = ["box"] then some .directory
      else if path = ["secret"] then some (.file secret) else none := by
  by_cases top : path = []
  · simp [top]
  · by_cases box : path = ["box"]
    · simp [box, boxTree, Tree.find?_insert]
    · simp only [boxTree, Tree.find?_insert, top, box, if_false, or_self]
      simp [Tree.find?, Tree.empty, top]

theorem boxTree_noLinks (secret : Bytes) (place : Path) (target : String) :
    (boxTree secret).find? place ≠ some (.link target) := by
  rw [boxTree_find?]
  split
  · simp
  · split <;> simp

theorem boxTree_closed (secret : Bytes) : (boxTree secret).Closed := by
  intro place name node stands
  have known : place ++ [name] = ["box"] ∨ place ++ [name] = ["secret"] := by
    refine Classical.byContradiction fun other => ?_
    simp [boxTree_find?, not_or.mp other] at stands
  have atTop : place = [] := by
    rcases known with box | secret
    · exact (List.append_singleton_inj.mp (show place ++ [name] = [] ++ ["box"] from box)).1
    · exact (List.append_singleton_inj.mp (show place ++ [name] = [] ++ ["secret"] from secret)).1
  rw [atTop, Tree.find?_nil]

/-- The calls that write a file in the root and one next to it. -/
def writingPayloads : List Bytes :=
  ["\x7b\"method\":\"fs.writeText\",\"args\":[\"a/b\",\"hi\"]\x7d",
   "\x7b\"method\":\"fs.writeText\",\"args\":[\"../secret\",\"hi\"]\x7d"].map Utf8.ofString

theorem written_within_box_only :
    boxHost.access.boundary.LinkFree (boxTree [1]) ∧
      (boxHost.serve ⟨{ files := boxTree [1] }, {}⟩ writingPayloads).world.files.find? ["secret"] =
        some (.file [1]) ∧
      (boxHost.serve ⟨{ files := boxTree [1] }, {}⟩ writingPayloads).world.files.find?
        ["box", "a", "b"] = some (.file (Utf8.ofString "hi")) := by
  have linkFree : boxHost.access.boundary.LinkFree (boxTree [1]) :=
    fun place target _ => boxTree_noLinks [1] place target
  refine ⟨linkFree, ?_, by decide +kernel⟩
  exact (served_payloads_stay_contained boxHost ⟨{ files := boxTree [1] }, {}⟩ linkFree
    writingPayloads).2 rfl ["secret"] (by decide) (by decide)

end ScriptSandbox.Files
