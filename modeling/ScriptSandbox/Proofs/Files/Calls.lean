import Mathlib.Data.List.Induction
import Mathlib.Data.List.Sort
import ScriptSandbox.Proofs.Files.Listing

/-!
# Calls to the operating system

Calls that are made one after the other go as far as they are granted. Those that empty a directory
take away what stands below it and nothing else, each node behind everything below it, so that
wherever they are stopped, whatever still stands in the tree stands in a directory.
-/
namespace ScriptSandbox.Files

/-! ### Closed trees -/

/-- Whatever stands in a tree stands in a directory. -/
def Tree.Closed (tree : Tree) : Prop :=
  ∀ place name node, tree.find? (place ++ [name]) = some node → tree.find? place = some .directory

namespace Tree.Closed

variable {tree : Tree} {place : Path} {node : Node}

/-- Above whatever stands in a closed tree there are directories. -/
theorem above (closed : tree.Closed) {names : List String} (more : names ≠ [])
    (stands : tree.find? (place ++ names) = some node) : tree.find? place = some .directory := by
  induction names using List.reverseRecOn generalizing node with
  | nil => exact absurd rfl more
  | append_singleton names name ih =>
    rw [← List.append_assoc] at stands
    have directory := closed _ _ _ stands
    rcases List.eq_nil_or_concat names with rfl | ⟨_, _, rfl⟩
    · simpa using directory
    · exact ih (by simp) directory

theorem dropLast (closed : tree.Closed) (stands : tree.find? place = some .directory) :
    tree.find? place.dropLast = some .directory := by
  rcases List.eq_nil_or_concat place with rfl | ⟨above, name, rfl⟩
  · exact stands
  · rw [List.concat_eq_append] at stands
    simpa using closed _ _ _ stands

/-- What is put into a directory, in place of no other directory, keeps a tree closed. -/
theorem insert {name : String} (closed : tree.Closed)
    (stands : tree.find? place = some .directory)
    (leaf : tree.find? (place ++ [name]) ≠ some .directory) (node : Node) :
    (tree.insert (place ++ [name]) node).Closed := by
  intro above last stood found
  by_cases here : above ++ [last] = place ++ [name]
  · obtain ⟨rfl, rfl⟩ := List.append_singleton_inj.mp here
    rw [tree.find?_insert_of_ne (by simp), stands]
  · rw [tree.find?_insert_of_ne here] at found
    have directory := closed _ _ _ found
    have other : above ≠ place ++ [name] := by
      rintro rfl
      exact leaf directory
    rw [tree.find?_insert_of_ne other, directory]

end Tree.Closed

/-! ### Calls one after the other -/

/-- How calls go that are made one after the other: to their end, or to the first that is refused. -/
inductive Attempted (system : System) (tree : Tree) (calls : List SystemCall) :
    Except Fault Unit × Tree → Prop where
  | done (granted : ∀ call ∈ calls, system.refuses call = none) :
      Attempted system tree calls (.ok (), calls.foldl SystemCall.apply tree)
  | stopped {made later : List SystemCall} {call : SystemCall} {reason : String}
      (whole : calls = made ++ call :: later) (refused : system.refuses call = some reason) :
      Attempted system tree calls (.error (.denied reason), made.foldl SystemCall.apply tree)

theorem attemptAll_attempted (system : System) (tree : Tree) (calls : List SystemCall) :
    Attempted system tree calls (system.attemptAll tree calls) := by
  induction calls generalizing tree with
  | nil => exact .done (by simp)
  | cons call later ih =>
    cases answer : system.refuses call with
    | some reason =>
      simp only [System.attemptAll, System.attempt, answer]
      exact .stopped (List.nil_append _).symm answer
    | none =>
      simp only [System.attemptAll, System.attempt, answer]
      have further := ih (call.apply tree)
      generalize system.attemptAll (call.apply tree) later = result at further
      cases further with
      | done granted => exact .done (List.forall_mem_cons.mpr ⟨answer, granted⟩)
      | stopped whole refused =>
        rw [← List.foldl_cons]
        exact .stopped (by rw [whole, List.cons_append]) refused

theorem attemptAll_append (system : System) (tree : Tree) (calls later : List SystemCall) :
    system.attemptAll tree (calls ++ later) =
      match system.attemptAll tree calls with
      | (.error fault, tree) => (.error fault, tree)
      | (.ok (), tree) => system.attemptAll tree later := by
  induction calls generalizing tree with
  | nil => rfl
  | cons call calls ih =>
    cases answer : system.refuses call <;>
      simp only [List.cons_append, System.attemptAll, System.attempt, answer, ih]

/-- The place that a call takes away. -/
def SystemCall.removed? : SystemCall → Option Path
  | unlink place | removeDirectory place => some place
  | makeDirectory _ | openFile _ | openDirectory _ => none

/-- The places that calls take away. -/
def removed (calls : List SystemCall) : List Path := calls.filterMap SystemCall.removed?

@[simp] theorem removed_nil : removed [] = [] := rfl

@[simp] theorem removed_cons (call : SystemCall) (later : List SystemCall) :
    removed (call :: later) = call.removed?.toList ++ removed later := by
  cases call <;> rfl

@[simp] theorem removed_append (calls later : List SystemCall) :
    removed (calls ++ later) = removed calls ++ removed later :=
  List.filterMap_append

/-- A call changes nothing but that it may take something away. -/
def SystemCall.Removes : SystemCall → Prop
  | openDirectory _ | unlink _ | removeDirectory _ => True
  | makeDirectory _ | openFile _ => False

/-- What calls take away is gone, and the rest of the tree is as it was. -/
theorem find?_foldl_apply {calls : List SystemCall} (removes : ∀ call ∈ calls, call.Removes)
    (tree : Tree) {path : Path} (below : path ≠ []) :
    (calls.foldl SystemCall.apply tree).find? path =
      if path ∈ removed calls then none else tree.find? path := by
  induction calls generalizing tree with
  | nil => rfl
  | cons call later ih =>
    obtain ⟨first, others⟩ := List.forall_mem_cons.mp removes
    rw [List.foldl_cons, ih others]
    cases call with
    | makeDirectory | openFile => exact first.elim
    | openDirectory => rfl
    | unlink place | removeDirectory place =>
      by_cases here : path = place
      · subst here
        simp [SystemCall.apply, SystemCall.removed?, Tree.find?_erase, below]
      · simp [SystemCall.apply, SystemCall.removed?, Tree.find?_erase, below, here]

theorem foldl_apply_of_removed_nil {calls : List SystemCall} (removes : ∀ call ∈ calls, call.Removes)
    (nothing : removed calls = []) (tree : Tree) : calls.foldl SystemCall.apply tree = tree := by
  induction calls with
  | nil => rfl
  | cons call later ih =>
    obtain ⟨first, others⟩ := List.forall_mem_cons.mp removes
    rw [removed_cons, List.append_eq_nil_iff] at nothing
    cases call with
    | openDirectory => exact ih others nothing.2
    | makeDirectory | openFile => exact first.elim
    | unlink | removeDirectory => simp [SystemCall.removed?] at nothing

/-! ### Emptying a directory -/

namespace Tree

variable {tree : Tree} {system : System} {levels : Nat} {directory : Path}

theorem mem_names_iff {name : String} :
    name ∈ tree.names directory ↔ ∃ node, tree.find? (directory ++ [name]) = some node := by
  simp [names, mem_entries_iff]

theorem mem_order_iff {name : String} :
    name ∈ system.order directory (tree.names directory) ↔
      ∃ node, tree.find? (directory ++ [name]) = some node := by
  rw [(system.order_perm directory _).mem_iff, mem_names_iff]

/-- The calls that take an entry away, with what is in it. -/
def clearing (tree : Tree) (system : System) (levels : Nat) (place : Path) : List SystemCall :=
  match tree.find? place with
  | some .directory =>
    .openDirectory place :: tree.emptying system levels place ++ [.removeDirectory place]
  | _ => [.unlink place]

theorem emptying_succ : tree.emptying system (levels + 1) directory =
    (system.order directory (tree.names directory)).flatMap fun name =>
      tree.clearing system levels (directory ++ [name]) := rfl

theorem emptying_removes : ∀ call ∈ tree.emptying system levels directory, call.Removes := by
  induction levels generalizing directory with
  | zero => simp [emptying]
  | succ levels ih =>
    rw [emptying_succ]
    intro call member
    obtain ⟨name, -, cleared⟩ := List.mem_flatMap.mp member
    unfold clearing at cleared
    split at cleared
    · rcases List.mem_cons.mp cleared with rfl | cleared
      · trivial
      · rcases List.mem_append.mp cleared with inside | last
        · exact ih call inside
        · obtain rfl := List.mem_singleton.mp last
          trivial
    · obtain rfl := List.mem_singleton.mp cleared
      trivial

theorem mem_removed_emptying_succ {place : Path} :
    place ∈ removed (tree.emptying system (levels + 1) directory) ↔
      ∃ name node, tree.find? (directory ++ [name]) = some node ∧
        (place = directory ++ [name] ∨ (node = .directory ∧
          place ∈ removed (tree.emptying system levels (directory ++ [name])))) := by
  have cleared (name : String) (node : Node) (stands : tree.find? (directory ++ [name]) = some node) :
      place ∈ removed (tree.clearing system levels (directory ++ [name])) ↔
        place = directory ++ [name] ∨ (node = .directory ∧
          place ∈ removed (tree.emptying system levels (directory ++ [name]))) := by
    cases node <;> simp [clearing, stands, SystemCall.removed?, or_comm]
  rw [emptying_succ, removed, List.filterMap_flatMap, List.mem_flatMap]
  constructor
  · rintro ⟨name, listed, member⟩
    obtain ⟨node, stands⟩ := mem_order_iff.mp listed
    exact ⟨name, node, stands, (cleared name node stands).mp member⟩
  · rintro ⟨name, node, stands, member⟩
    exact ⟨name, mem_order_iff.mpr ⟨node, stands⟩, (cleared name node stands).mpr member⟩

/-- Only what stands below a directory is taken away to empty it. -/
theorem below_of_mem_removed {place : Path}
    (member : place ∈ removed (tree.emptying system levels directory)) :
    directory <+: place ∧ place ≠ directory := by
  induction levels generalizing directory with
  | zero => simp [emptying] at member
  | succ levels ih =>
    obtain ⟨name, node, -, rfl | ⟨-, further⟩⟩ := mem_removed_emptying_succ.mp member
    · exact ⟨List.prefix_append _ _, by simp⟩
    · obtain ⟨inside, -⟩ := ih further
      have longer := inside.length_le
      refine ⟨(List.prefix_append _ _).trans inside, ?_⟩
      rintro rfl
      simp at longer

/-- Nothing stands more than so many levels below a directory. -/
def Reach (tree : Tree) (directory : Path) (levels : Nat) : Prop :=
  ∀ place, directory <+: place → tree.find? place ≠ none →
    place.length ≤ directory.length + levels

theorem Reach.below (reach : tree.Reach directory (levels + 1)) (name : String) :
    tree.Reach (directory ++ [name]) levels := by
  intro place inside stands
  have within := reach place ((List.prefix_append _ _).trans inside) stands
  rw [List.length_append, List.length_singleton]
  omega

theorem length_le_height {path : Path} (stands : tree.find? path ≠ none) :
    path.length ≤ tree.height := by
  by_cases top : path = []
  · simp [top]
  · obtain ⟨node, found⟩ := Option.ne_none_iff_exists'.mp stands
    have member := (tree.mem_nodes_iff top node).mpr found
    unfold height
    generalize tree.nodes = nodes at member
    induction nodes with
    | nil => cases member
    | cons entry rest ih =>
      rw [List.map_cons, List.foldr_cons]
      rcases List.mem_cons.mp member with rfl | later
      · exact Nat.le_max_left _ _
      · exact (ih later).trans (Nat.le_max_right _ _)

theorem reach_height (tree : Tree) (directory : Path) : tree.Reach directory tree.height :=
  fun _ _ stands => (length_le_height stands).trans (Nat.le_add_left _ _)

/-- All that stands below a directory of a closed tree is taken away to empty it. -/
theorem mem_removed_emptying (closed : tree.Closed) (reach : tree.Reach directory levels)
    {name : String} {names : List String} {node : Node}
    (stands : tree.find? (directory ++ name :: names) = some node) :
    directory ++ name :: names ∈ removed (tree.emptying system levels directory) := by
  induction levels generalizing directory name names with
  | zero =>
    have within := reach (directory ++ name :: names) (List.prefix_append _ _) (by simp [stands])
    simp at within
  | succ levels ih =>
    have next : directory ++ name :: names = directory ++ [name] ++ names := by simp
    rw [next] at stands ⊢
    cases names with
    | nil =>
      rw [List.append_nil] at stands ⊢
      exact mem_removed_emptying_succ.mpr ⟨name, node, stands, .inl rfl⟩
    | cons further names =>
      have directory' := closed.above (List.cons_ne_nil _ _) stands
      exact mem_removed_emptying_succ.mpr
        ⟨name, _, directory', .inr ⟨rfl, ih (reach.below name) stands⟩⟩

theorem names_congr {left right : Tree}
    (agree : ∀ name, left.find? (directory ++ [name]) = right.find? (directory ++ [name])) :
    left.names directory = right.names directory := by
  have same : ((left.entries directory).map Prod.fst).Perm
      ((right.entries directory).map Prod.fst) :=
    (List.perm_ext_iff_of_nodup (left.names_nodup _) (right.names_nodup _)).mpr fun name => by
      simp [mem_entries_iff, agree]
  exact (((List.mergeSort_perm _ _).trans same).trans (List.mergeSort_perm _ _).symm).eq_of_pairwise'
    (List.pairwise_mergeSort' _ _) (List.pairwise_mergeSort' _ _)

theorem emptying_of_reach_zero (reach : tree.Reach directory 0) :
    tree.emptying system levels directory = [] := by
  cases levels with
  | zero => rfl
  | succ levels =>
    have nothing : system.order directory (tree.names directory) = [] := by
      refine List.eq_nil_iff_forall_not_mem.mpr fun name listed => ?_
      obtain ⟨node, stands⟩ := mem_order_iff.mp listed
      have within := reach (directory ++ [name]) (List.prefix_append _ _) (by simp [stands])
      simp at within
    rw [emptying_succ, nothing, List.flatMap_nil]

theorem Reach.congr {left right : Tree}
    (agree : ∀ place, directory <+: place → left.find? place = right.find? place)
    (reach : left.Reach directory levels) : right.Reach directory levels :=
  fun place inside stands => reach place inside (agree place inside ▸ stands)

/-- The same calls empty a directory in two trees with the same nodes below it. -/
theorem emptying_congr {left right : Tree} {others : Nat}
    (agree : ∀ place, directory <+: place → left.find? place = right.find? place)
    (reach : left.Reach directory levels) (reach' : right.Reach directory others) :
    left.emptying system levels directory = right.emptying system others directory := by
  induction levels generalizing directory others with
  | zero => exact (emptying_of_reach_zero (reach.congr agree)).symm
  | succ levels ih =>
    cases others with
    | zero => exact emptying_of_reach_zero (reach'.congr fun place inside => (agree place inside).symm)
    | succ others =>
      have within (name : String) := List.prefix_append directory [name]
      rw [emptying_succ, emptying_succ, names_congr fun name => agree _ (within name)]
      refine List.flatMap_congr fun name _ => ?_
      unfold clearing
      rw [agree _ (within name), ih (fun place inside => agree place ((within name).trans inside))
        (reach.below name) (reach'.below name)]

/-! ### Calls that are stopped -/

/-- Whatever a beginning of some calls takes away, it takes away what stands in it as well. -/
def Postorder (tree : Tree) (calls : List SystemCall) : Prop :=
  ∀ made, made <+: calls → ∀ place ∈ removed made, ∀ name node,
    tree.find? (place ++ [name]) = some node → place ++ [name] ∈ removed made

namespace Postorder

variable {calls later : List SystemCall}

theorem nil : tree.Postorder [] := by
  intro made nothing place member
  rw [List.prefix_nil.mp nothing] at member
  cases member

theorem append (first : tree.Postorder calls) (second : tree.Postorder later) :
    tree.Postorder (calls ++ later) := by
  intro made onWay place member name node stands
  rcases List.prefix_or_prefix_of_prefix onWay (List.prefix_append calls later) with
    before | ⟨more, rfl⟩
  · exact first made before place member name node stands
  · have among := (List.prefix_append_right_inj calls).mp onWay
    rw [removed_append] at member ⊢
    rcases List.mem_append.mp member with early | late
    · exact List.mem_append_left _ (first calls List.prefix_rfl place early name node stands)
    · exact List.mem_append_right _ (second more among place late name node stands)

theorem flatMap {α : Type} {items : List α} {clear : α → List SystemCall}
    (each : ∀ item ∈ items, tree.Postorder (clear item)) : tree.Postorder (items.flatMap clear) := by
  induction items with
  | nil => exact nil
  | cons item rest ih =>
    obtain ⟨first, others⟩ := List.forall_mem_cons.mp each
    exact first.append (ih others)

theorem single {call : SystemCall} (leaf : ∀ place, call.removed? = some place → ∀ name node,
    tree.find? (place ++ [name]) ≠ some node) : tree.Postorder [call] := by
  intro made onWay place member name node stands
  obtain ⟨other, among, takes⟩ := List.mem_filterMap.mp member
  obtain rfl := List.mem_singleton.mp (onWay.subset among)
  exact absurd stands (leaf place takes name node)

/-- A directory may go behind what is in it. -/
theorem concat {place : Path} (inside : tree.Postorder calls)
    (emptied : ∀ name node, tree.find? (place ++ [name]) = some node →
      place ++ [name] ∈ removed calls) :
    tree.Postorder (calls ++ [.removeDirectory place]) := by
  intro made onWay other member name node stands
  rcases List.prefix_concat_iff.mp onWay with rfl | before
  · rw [removed_append] at member ⊢
    refine List.mem_append_left _ ?_
    rcases List.mem_append.mp member with early | last
    · exact inside calls List.prefix_rfl other early name node stands
    · obtain rfl : other = place := by simpa [SystemCall.removed?] using last
      exact emptied name node stands
  · exact inside made before other member name node stands

/-- Wherever the calls are stopped, the tree is closed as before. -/
theorem closed_foldl {made : List SystemCall} (postorder : tree.Postorder calls)
    (closed : tree.Closed) (removes : ∀ call ∈ calls, call.Removes) (onWay : made <+: calls) :
    (made.foldl SystemCall.apply tree).Closed := by
  have removes' : ∀ call ∈ made, call.Removes := fun call among => removes call (onWay.subset among)
  intro place name node stands
  rw [find?_foldl_apply removes' tree (by simp)] at stands
  split at stands
  next => cases stands
  next kept =>
    by_cases top : place = []
    · rw [top, find?_nil]
    · -- If the directory were gone, so would be what stands in it.
      rw [find?_foldl_apply removes' tree top, if_neg, closed _ _ _ stands]
      exact fun gone => kept (postorder made onWay place gone name node stands)

end Postorder

theorem emptying_postorder (closed : tree.Closed) (reach : tree.Reach directory levels) :
    tree.Postorder (tree.emptying system levels directory) := by
  induction levels generalizing directory with
  | zero => exact .nil
  | succ levels ih =>
    rw [emptying_succ]
    refine Postorder.flatMap fun name _ => ?_
    unfold clearing
    split
    next =>
      have opened : tree.Postorder [.openDirectory (directory ++ [name])] :=
        .single fun place takes => nomatch takes
      refine (opened.append (ih (reach.below name))).concat fun inner node stands => ?_
      rw [removed_append]
      exact List.mem_append_right _ (mem_removed_emptying closed (reach.below name) stands)
    next other =>
      -- Nothing stands below what is no directory.
      refine .single fun place takes inner node stands => other ?_
      obtain rfl := Option.some.inj takes
      exact closed _ _ _ stands

end Tree

end ScriptSandbox.Files
