import ScriptSandbox.Files.Boundary
import ScriptSandbox.Proofs.Files.Folding

/-!
# How paths are resolved

A text resolves to the path that its parts lead to from the root of the sandbox, when this lies within
the root or when consent is given to it. The consent function is asked about the texts that lead out
of the root or above the top of the filesystem, and about no others.
-/
namespace ScriptSandbox.Files

open Files.Path (LeadsTo parts)

namespace Boundary

/-- The consent function approves a text for an action. -/
def Approves (boundary : Boundary) (requested : String) (action : FileAction) : Prop :=
  ∃ approves, boundary.consent = some approves ∧ approves requested action = true

/-- A text that could name a path leads out of the root, or above the top of the filesystem. -/
structure Leaves (boundary : Boundary) (requested : String) : Prop where
  named : requested ≠ ""
  relative : Path.isAbsolute requested = false
  out : ∀ path, LeadsTo boundary.root (parts requested) path → ¬ boundary.root <+: path

/-- The ways in which a text is resolved, with what is asked on the way. -/
inductive Resolved (boundary : Boundary) (requested : String) (action : FileAction) :
    Ruling Path → Prop where
  | empty (nothing : requested = "") :
      Resolved boundary requested action ⟨.error (.misused .emptyPath), []⟩
  | rooted (named : requested ≠ "") (absolute : Path.isAbsolute requested = true) :
      Resolved boundary requested action ⟨.error (.refused (.absolutePath requested)), []⟩
  | inside {path : Path} (named : requested ≠ "") (relative : Path.isAbsolute requested = false)
      (leads : LeadsTo boundary.root (parts requested) path) (within : boundary.root <+: path) :
      Resolved boundary requested action ⟨.ok path, []⟩
  | unasked (leaves : boundary.Leaves requested) (nobody : boundary.consent = none) :
      Resolved boundary requested action ⟨.error (.refused (.escapingPath requested)), []⟩
  | approved {path : Path} (leaves : boundary.Leaves requested)
      (approves : boundary.Approves requested action)
      (leads : LeadsTo boundary.root (parts requested) path) :
      Resolved boundary requested action ⟨.ok path, [.file requested action]⟩
  | denied (leaves : boundary.Leaves requested) (somebody : boundary.consent ≠ none)
      (nowhere : boundary.Approves requested action →
        ∀ path, ¬ LeadsTo boundary.root (parts requested) path) :
      Resolved boundary requested action
        ⟨.error (.refused (.escapingPath requested)), [.file requested action]⟩

variable {boundary : Boundary} {requested : String} {action : FileAction}

/-- The ruling about a text that leaves the root. -/
def ruleOutside (boundary : Boundary) (requested : String) (action : FileAction) : Ruling Path :=
  match boundary.consent with
  | none => ⟨.error (.refused (.escapingPath requested)), []⟩
  | some approves =>
    match boundary.root.follow (Path.steps requested), approves requested action with
    | some path, true => ⟨.ok path, [.file requested action]⟩
    | _, _ => ⟨.error (.refused (.escapingPath requested)), [.file requested action]⟩

theorem resolve_eq_ruleOutside (leaves : boundary.Leaves requested) :
    boundary.resolve requested action = boundary.ruleOutside requested action := by
  have named : requested.isEmpty = false := by simpa using leaves.named
  simp only [resolve, named, leaves.relative, Bool.false_eq_true, ↓reduceIte, ruleOutside]
  cases target : boundary.root.follow (Path.steps requested) with
  | none => cases consent : boundary.consent <;> rfl
  | some path =>
    have out : boundary.root.isWithin path = false := by
      rw [← Bool.not_eq_true]
      exact fun inside => leaves.out path (Path.follow_eq_some_iff.mp target)
        (List.isPrefixOf_iff_prefix.mp inside)
    simp only [out]
    cases consent : boundary.consent <;> rfl

theorem ruleOutside_resolved (leaves : boundary.Leaves requested) :
    boundary.Resolved requested action (boundary.ruleOutside requested action) := by
  unfold ruleOutside
  split
  next nobody => exact .unasked leaves nobody
  next approves somebody =>
    split
    next path found approved =>
      exact .approved leaves ⟨approves, somebody, approved⟩ (Path.follow_eq_some_iff.mp found)
    next fails =>
      refine .denied leaves (by simp [somebody]) ?_
      rintro ⟨other, given, approved⟩ path leads
      obtain rfl : approves = other := Option.some.inj (somebody.symm.trans given)
      exact fails path (Path.follow_eq_some_iff.mpr leads) approved

/-- Resolving goes one of these ways. -/
theorem resolve_resolved (boundary : Boundary) (requested : String) (action : FileAction) :
    boundary.Resolved requested action (boundary.resolve requested action) := by
  by_cases leaves : boundary.Leaves requested
  · rw [resolve_eq_ruleOutside leaves]
    exact ruleOutside_resolved leaves
  unfold resolve
  split
  next nothing => exact .empty (by simpa using nothing)
  next named =>
    have named : requested ≠ "" := by simpa using named
    split
    next absolute => exact .rooted named absolute
    next relative =>
      have relative : Path.isAbsolute requested = false := by simpa using relative
      -- What does not leave the root leads to a place within it.
      obtain ⟨path, leads, within⟩ : ∃ path,
          LeadsTo boundary.root (parts requested) path ∧ boundary.root <+: path := by
        refine Classical.byContradiction fun nowhere => leaves ⟨named, relative, ?_⟩
        exact fun path leads within => nowhere ⟨path, leads, within⟩
      have found := Path.follow_eq_some_iff.mpr leads
      have inside : boundary.root.isWithin path = true := List.isPrefixOf_iff_prefix.mpr within
      simp only [found, inside]
      exact .inside named relative leads within

/-- Answers of the consent function about other texts and actions do not matter. -/
theorem resolve_congr {other : Boundary} (root : other.root = boundary.root)
    (agree : other.consent.map (· requested action) = boundary.consent.map (· requested action)) :
    other.resolve requested action = boundary.resolve requested action := by
  unfold resolve
  rw [root]
  cases target : boundary.root.follow (Path.steps requested) with
  | none => cases mine : boundary.consent <;> cases theirs : other.consent <;> simp_all
  | some path =>
    cases inside : boundary.root.isWithin path <;> cases mine : boundary.consent <;>
      cases theirs : other.consent <;> simp_all

namespace Resolved

variable {ruling : Ruling Path} {path : Path}

theorem allowed_iff (resolved : boundary.Resolved requested action ruling) :
    ruling.outcome = .ok path ↔
      requested ≠ "" ∧ Path.isAbsolute requested = false ∧
        LeadsTo boundary.root (parts requested) path ∧
        (boundary.root <+: path ∨ boundary.Approves requested action) := by
  cases resolved with
  | empty nothing => simp [nothing]
  | rooted _ absolute => simp [absolute]
  | inside named relative leads within =>
    constructor
    · rintro ⟨⟩
      exact ⟨named, relative, leads, .inl within⟩
    · rintro ⟨_, _, leads', _⟩
      rw [leads.unique leads']
  | unasked leaves nobody =>
    constructor
    · rintro ⟨⟩
    · rintro ⟨_, _, leads, within | ⟨_, somebody, _⟩⟩
      · exact absurd within (leaves.out _ leads)
      · simp [nobody] at somebody
  | approved leaves approves leads =>
    constructor
    · rintro ⟨⟩
      exact ⟨leaves.named, leaves.relative, leads, .inr approves⟩
    · rintro ⟨_, _, leads', _⟩
      rw [leads.unique leads']
  | denied leaves _ nowhere =>
    constructor
    · rintro ⟨⟩
    · rintro ⟨_, _, leads, within | approves⟩
      · exact absurd within (leaves.out _ leads)
      · exact absurd leads (nowhere approves _)

theorem misused_iff (resolved : boundary.Resolved requested action ruling) :
    (∃ cause, ruling.outcome = .error (.misused cause)) ↔ requested = "" := by
  cases resolved with
  | empty nothing => simp [nothing]
  | rooted named | inside named => simp [named]
  | unasked leaves | approved leaves | denied leaves => simp [leaves.named]

theorem refused_iff (resolved : boundary.Resolved requested action ruling) :
    (∃ cause, ruling.outcome = .error (.refused cause)) ↔
      requested ≠ "" ∧ ∀ path, ruling.outcome ≠ .ok path := by
  cases resolved with
  | empty nothing => simp [nothing]
  | rooted named | inside named => simp [named]
  | unasked leaves | approved leaves | denied leaves => simp [leaves.named]

theorem asked_iff (resolved : boundary.Resolved requested action ruling) :
    ruling.asked = [.file requested action] ↔
      boundary.consent ≠ none ∧ boundary.Leaves requested := by
  cases resolved with
  | empty nothing => simpa using fun _ leaves => leaves.named nothing
  | rooted _ absolute => simpa using fun _ leaves => by simp [leaves.relative] at absolute
  | inside _ _ leads within => simpa using fun _ leaves => leaves.out _ leads within
  | unasked _ nobody => simp [nobody]
  | approved leaves approves =>
    obtain ⟨_, somebody, _⟩ := approves
    simp [somebody, leaves]
  | denied leaves somebody => simp [somebody, leaves]

theorem asked_once (resolved : boundary.Resolved requested action ruling) :
    ruling.asked = [] ∨ ruling.asked = [.file requested action] := by
  cases resolved <;> simp

end Resolved

/-! ### Policies -/

/-- The path that the text of a policy's root is read from. -/
def anchor (workingDirectory : Path) (policy : Policy) : Path :=
  if Path.isAbsolute policy.root then [] else workingDirectory

/-- The path that a text names under a policy: where the parts of the root's text lead and from there
its own parts. -/
def Names (workingDirectory : Path) (policy : Policy) (requested : String) (path : Path) : Prop :=
  LeadsTo (anchor workingDirectory policy) (parts policy.root ++ parts requested) path

variable {workingDirectory path : Path} {policy : Policy}

theorem ofPolicy_eq_ok_iff :
    ofPolicy workingDirectory policy = .ok boundary ↔
      LeadsTo (anchor workingDirectory policy) (parts policy.root) boundary.root ∧
        boundary.consent = policy.fileConsent := by
  obtain ⟨root, consent⟩ := boundary
  rw [← Path.follow_eq_some_iff, ofPolicy, ← anchor]
  cases Path.follow (anchor workingDirectory policy) (Path.steps policy.root) with
  | none => simp
  | some found => simp [eq_comm]

theorem names_iff (built : ofPolicy workingDirectory policy = .ok boundary) :
    Names workingDirectory policy requested path ↔
      LeadsTo boundary.root (parts requested) path :=
  (ofPolicy_eq_ok_iff.mp built).1.append_iff

/-- Containment is by whole names: a longer name beside that of the root is not within it. -/
theorem not_within_sibling {parent rest : Path} {name extra : String} (longer : extra ≠ "") :
    ¬ parent ++ [name] <+: parent ++ (name ++ extra) :: rest := by
  intro within
  have same := (List.cons_prefix_cons.mp ((List.prefix_append_right_inj parent).mp within)).1
  have letters := congrArg String.toList same
  exact longer (by simpa using letters)

/-- What resolving has to do with a text under a policy. -/
structure Decides (workingDirectory : Path) (policy : Policy) (boundary : Boundary)
    (requested : String) (action : FileAction) (ruling : Ruling Path) : Prop where
  root : LeadsTo (anchor workingDirectory policy) (parts policy.root) boundary.root
  consent : boundary.consent = policy.fileConsent
  allowed_iff : ∀ path, ruling.outcome = .ok path ↔
    requested ≠ "" ∧ Path.isAbsolute requested = false ∧
      Names workingDirectory policy requested path ∧
      (boundary.root <+: path ∨ boundary.Approves requested action)
  misused_iff : (∃ cause, ruling.outcome = .error (.misused cause)) ↔ requested = ""
  refused_iff : (∃ cause, ruling.outcome = .error (.refused cause)) ↔
    requested ≠ "" ∧ ∀ path, ruling.outcome ≠ .ok path
  /-- At most one question is asked, about the text as it was given. -/
  asked_once : ruling.asked = [] ∨ ruling.asked = [.file requested action]
  asked_iff : ruling.asked = [.file requested action] ↔
    boundary.consent ≠ none ∧ requested ≠ "" ∧ Path.isAbsolute requested = false ∧
      ∀ path, Names workingDirectory policy requested path → ¬ boundary.root <+: path
  /-- The answers to other questions do not matter. -/
  other_answers : ∀ other : Boundary, other.root = boundary.root →
    other.consent.map (· requested action) = boundary.consent.map (· requested action) →
    other.resolve requested action = ruling
  /-- A place whose name only starts like that of the root is outside. -/
  sibling : ∀ parent name extra rest, boundary.root = parent ++ [name] → extra ≠ "" →
    Names workingDirectory policy requested (parent ++ (name ++ extra) :: rest) →
    ¬ boundary.Approves requested action → ∀ path, ruling.outcome ≠ .ok path

/-- A policy's boundary decides about every text by the path that the text names. -/
theorem resolve_decides (built : ofPolicy workingDirectory policy = .ok boundary)
    (requested : String) (action : FileAction) :
    Decides workingDirectory policy boundary requested action
      (boundary.resolve requested action) := by
  obtain ⟨root, consent⟩ := ofPolicy_eq_ok_iff.mp built
  have resolved := boundary.resolve_resolved requested action
  constructor
  case root => exact root
  case consent => exact consent
  case allowed_iff =>
    intro path
    rw [names_iff built]
    exact resolved.allowed_iff
  case misused_iff => exact resolved.misused_iff
  case refused_iff => exact resolved.refused_iff
  case asked_once => exact resolved.asked_once
  case asked_iff =>
    rw [resolved.asked_iff]
    simp only [names_iff built]
    exact and_congr_right fun _ => ⟨fun ⟨named, relative, out⟩ => ⟨named, relative, out⟩,
      fun ⟨named, relative, out⟩ => ⟨named, relative, out⟩⟩
  case other_answers => exact fun other => resolve_congr
  case sibling =>
    intro parent name extra rest atRoot longer names denied path allowed
    obtain ⟨_, _, leads, within | approves⟩ := resolved.allowed_iff.mp allowed
    · -- The text names one place only, and that is the sibling.
      rw [leads.unique ((names_iff built).mp names), atRoot] at within
      exact not_within_sibling longer within
    · exact denied approves

end Boundary

/-! ### A directory beside the root -/

namespace Beside

open Boundary (Decides ofPolicy resolve_decides)

/-- A policy whose root is written with detours. One text that leaves it may be used to read. -/
def policy : Policy where
  root := "box/./../box/"
  fileConsent := some fun requested action => requested = "../boxes/../box2" ∧ action = .readText

def boundary : Boundary := ⟨["home", "box"], policy.fileConsent⟩

theorem built : ofPolicy ["home"] policy = .ok boundary := by rfl

/-- The name of a directory beside the root starts like that of the root, and consent is asked. -/
theorem beside_root_decided : ofPolicy ["home"] policy = .ok boundary ∧
    Decides ["home"] policy boundary "../boxes/../box2" .readText
      (boundary.resolve "../boxes/../box2" .readText) :=
  ⟨built, resolve_decides built _ _⟩

example : (boundary.resolve "../boxes/../box2" .readText).outcome = .ok ["home", "box2"] := by
  rfl

end Beside

end ScriptSandbox.Files
