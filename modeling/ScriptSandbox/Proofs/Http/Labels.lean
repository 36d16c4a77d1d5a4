import ScriptSandbox.Proofs.Http.Allowlist

/-!
# Which URLs pass, by the labels of their hosts

The labels of a host are the parts between its dots. A URL of the web passes where there is no list,
where the labels of an entry end those of its host, or where the consent function approves its text.
Every entry counts as it is configured, without its blanks and in lower case.
-/
namespace ScriptSandbox.Http

/-- The labels of a host, from the left. -/
def labels (host : String) : List (List Char) := host.toList.splitOn '.'

/-! ### Labels -/

theorem labels_below (front : List Char) (entry : String) :
    labels (String.ofList (front ++ '.' :: entry.toList)) =
      labels (String.ofList front) ++ labels entry := by
  -- The dot between them is one that the splitting sees.
  simp only [labels, String.toList_ofList, List.splitOn_eq_splitOnP]
  exact List.splitOnP_append_cons _ _ rfl

@[simp] theorem labels_ne_nil (host : String) : labels host ≠ [] := List.splitOn_ne_nil _ _

@[simp] theorem intercalate_labels (host : String) : ['.'].intercalate (labels host) = host.toList :=
  List.intercalate_splitOn '.'

theorem intercalate_append (mark : Char) {parts more : List (List Char)} (filled : parts ≠ [])
    (others : more ≠ []) :
    [mark].intercalate (parts ++ more) = [mark].intercalate parts ++ mark :: [mark].intercalate more := by
  induction parts with
  | nil => exact absurd rfl filled
  | cons part parts ih =>
    cases parts with
    | nil =>
      obtain ⟨next, more, rfl⟩ := List.exists_cons_of_ne_nil others
      simp [List.intercalate_cons_cons]
    | cons next parts =>
      have further := ih (by simp)
      simp only [List.cons_append, List.intercalate_cons_cons] at further ⊢
      rw [further]
      simp

/-- The labels of an entry end those of a host exactly when the host is the entry or ends with a dot
and the entry. -/
theorem labels_suffix_iff {entry host : String} :
    labels entry <:+ labels host ↔
      host.toList = entry.toList ∨ ∃ front, host.toList = front ++ '.' :: entry.toList := by
  constructor
  · rintro ⟨parts, split⟩
    have joined := congrArg ['.'].intercalate split
    -- Labels in front of the entry's own are joined to them with a dot.
    by_cases whole : parts = []
    · subst whole
      left
      simpa using joined.symm
    · right
      rw [intercalate_append '.' whole (labels_ne_nil entry), intercalate_labels,
        intercalate_labels] at joined
      exact ⟨_, joined.symm⟩
  · rintro (whole | ⟨front, split⟩)
    · exact String.toList_inj.mp whole ▸ List.suffix_rfl
    · have text : host = String.ofList (front ++ '.' :: entry.toList) := by
        rw [← split, String.ofList_toList]
      rw [text, labels_below]
      exact List.suffix_append _ _

/-- What the rules of a policy keep of an entry. -/
def kept (entry : String) : String := Ascii.lowerString (Blank.trim entry)

namespace Rules

variable {policy : Policy} {entry host : String} {url : Url}

theorem matchesEntry_iff_suffix :
    matchesEntry host entry = true ↔ labels entry <:+ labels host :=
  matchesEntry_iff.trans labels_suffix_iff.symm

/-- The host of a URL has labels that end with those of one of the entries. -/
def Lists (policy : Policy) (url : Url) : Prop :=
  hostName url ≠ "" ∧ ∃ entry ∈ policy.allowedDomains, labels (kept entry) <:+ labels (hostName url)

theorem allowsHost_iff_lists :
    (ofPolicy policy).allowsHost (hostName url) = true ↔ Lists policy url := by
  simp only [allowsHost, ofPolicy, Bool.and_eq_true, Bool.not_eq_true', List.any_map,
    List.any_eq_true, Function.comp_apply, matchesEntry_iff_suffix, Lists, kept]
  simp

/-! ### The check of a URL -/

theorem check_of_foreign (foreign : ¬ (url.scheme = "http" ∨ url.scheme = "https")) (raw : String) :
    (ofPolicy policy).check raw url = ⟨.error (.refused (.scheme url.scheme)), []⟩ := by
  rw [check, if_pos (not_or.mp foreign)]

theorem check_of_passes (web : url.scheme = "http" ∨ url.scheme = "https")
    (passes : policy.allowedDomains = [] ∨ Lists policy url) (raw : String) :
    (ofPolicy policy).check raw url = ⟨.ok (), []⟩ := by
  rw [check, if_neg fun foreign => not_or.mpr foreign web]
  rcases passes with empty | listed
  · rw [if_pos (by simp [ofPolicy, empty])]
  · dsimp only
    rw [if_pos (allowsHost_iff_lists.mpr listed), ite_self]

/-- What becomes of a URL whose host is on no list is up to the consent function. -/
theorem check_of_unlisted (web : url.scheme = "http" ∨ url.scheme = "https")
    (listing : policy.allowedDomains ≠ []) (unlisted : ¬ Lists policy url) (raw : String) :
    (ofPolicy policy).check raw url =
      match policy.networkConsent with
      | none => ⟨.error (.refused (.host (hostName url))), []⟩
      | some approves =>
        ⟨if approves raw then .ok () else .error (.refused (.host (hostName url))), [.url raw]⟩ := by
  have refused := mt allowsHost_iff_lists.mp unlisted
  have kept : ¬ (ofPolicy policy).allowed.isEmpty = true := by simpa [ofPolicy] using listing
  rw [check, if_neg fun foreign => not_or.mpr foreign web, if_neg kept]
  dsimp only
  rw [if_neg refused]
  rfl

/-! ### Dots -/

/-- Only dots are missing from the host of a URL, at its end. -/
theorem hostName_dots (hosted : url.hostText? = some host) :
    ∃ n, host.toList.map Ascii.lower = (hostName url).toList ++ List.replicate n '.' := by
  let dots := (host.toList.reverse.takeWhile (· = '.')).reverse
  have whole : host.toList = Blank.dropEnd (· = '.') host.toList ++ dots := by
    rw [Blank.dropEnd, ← List.reverse_append, List.takeWhile_append_dropWhile, List.reverse_reverse]
  have only : ∀ c ∈ dots, c = '.' := by
    intro c found
    have each := List.all_eq_true.mp (List.all_takeWhile (p := (· = '.')) (l := host.toList.reverse))
    simpa using each c (List.mem_reverse.mp found)
  have same : dots.map Ascii.lower = List.replicate dots.length '.' := by
    refine List.eq_replicate_iff.mpr ⟨by simp, fun c found => ?_⟩
    obtain ⟨dot, among, rfl⟩ := List.mem_map.mp found
    exact (Ascii.lower_eq_dot_iff dot).mpr (only dot among)
  refine ⟨dots.length, ?_⟩
  rw [hostName_eq hosted, ← same, ← List.map_append, ← whole]

/-- A host that is an entry with more text right in front of it does not match the entry. -/
theorem unmatched_of_prefixed {front name : List Char} (hosted : url.hostText? = some host)
    (split : host.toList = front ++ name)
    (same : name.map Ascii.lower = (Blank.trim entry).toList.map Ascii.lower)
    (filled : front ≠ []) (free : '.' ∉ front) : matchesEntry (hostName url) (kept entry) = false := by
  obtain ⟨n, dots⟩ := hostName_dots hosted
  have entryText : (kept entry).toList = name.map Ascii.lower := by
    rw [kept, Ascii.lowerString, String.toList_ofList, same]
  rw [split, List.map_append, ← entryText] at dots
  have dotless : (front.map Ascii.lower).count '.' = 0 := by
    simpa [List.count_eq_zero] using free
  -- The host without its last dots has as many dots as the entry, or fewer.
  have counts := congrArg (List.count '.') dots
  have lengths := congrArg List.length dots
  rw [Bool.eq_false_iff, ne_eq, matchesEntry_iff]
  rintro (whole | ⟨more, below⟩)
  · rw [whole] at counts lengths
    have length := List.length_pos_iff.mpr filled
    simp [dotless] at counts lengths
    omega
  · rw [below] at counts
    simp [dotless] at counts
    omega

end Rules

/-- Which URLs pass the rules of a policy, when the consent function is asked, and that text without
a dot right in front of an entry does not lead below it. -/
theorem url_passes_iff (policy : Policy) (raw : String) (url : Url) :
    let ruling := (Rules.ofPolicy policy).check raw url
    let web := url.scheme = "http" ∨ url.scheme = "https"
    let listed := Rules.Lists policy url
    (ruling.outcome = .ok () ↔ web ∧ (policy.allowedDomains = [] ∨ listed ∨
      ∃ approves, policy.networkConsent = some approves ∧ approves raw = true)) ∧
    (ruling.asked = [.url raw] ↔
      policy.networkConsent ≠ none ∧ web ∧ policy.allowedDomains ≠ [] ∧ ¬ listed) ∧
    (ruling.asked = [.url raw] ∨ ruling.asked = []) ∧
    ∀ entry host front name, url.hostText? = some host → host.toList = front ++ name →
      name.map Ascii.lower = (Blank.trim entry).toList.map Ascii.lower → front ≠ [] → '.' ∉ front →
      Rules.matchesEntry (Rules.hostName url) (kept entry) = false := by
  intro ruling web listed
  rw [← and_assoc, ← and_assoc]
  refine ⟨?_, fun entry host front name => Rules.unmatched_of_prefixed⟩
  by_cases isWeb : web
  · by_cases passes : policy.allowedDomains = [] ∨ listed
    · have verdict : ruling = ⟨.ok (), []⟩ := Rules.check_of_passes isWeb passes raw
      have noneAsked : ¬ (policy.allowedDomains ≠ [] ∧ ¬ listed) :=
        fun ⟨listing, unlisted⟩ => passes.elim listing unlisted
      simp [verdict, isWeb, noneAsked, ← or_assoc, passes]
    · obtain ⟨listing, unlisted⟩ := not_or.mp passes
      have verdict := Rules.check_of_unlisted isWeb listing unlisted raw
      cases consent : policy.networkConsent with
      | none => simp [ruling, verdict, consent, listing, unlisted]
      | some approves => simp [ruling, verdict, consent, isWeb, listing, unlisted]
  · have verdict : ruling = ⟨.error (.refused (.scheme url.scheme)), []⟩ :=
      Rules.check_of_foreign isWeb raw
    simp [verdict, isWeb]

/-! ### Text right in front of an entry -/

namespace PrefixedHost

def policy : Policy where
  allowedDomains := [" Example.com"]

def url : Url where
  scheme := "http"
  host := some (.domain "evilexample.com")

/-- The host ends with the text of the entry, but it does not match the entry and is refused. -/
theorem prefixed_host_refused :
    Rules.matchesEntry (Rules.hostName url) (kept " Example.com") = false ∧
      (Rules.ofPolicy policy).check "http://evilexample.com/" url =
        ⟨.error (.refused (.host "evilexample.com")), []⟩ := by
  constructor
  · exact (url_passes_iff policy "http://evilexample.com/" url).2.2.2 " Example.com"
      "evilexample.com" "evil".toList "example.com".toList rfl rfl (by decide) (by decide) (by decide)
  · rfl

end PrefixedHost

end ScriptSandbox.Http
