import ScriptSandbox.Http.Rules
import ScriptSandbox.Proofs.Text.Search

/-!
# Hosts that an allowlist names

An entry names a host and all hosts below it. A host is looked up without the dots at its end, but
an entry keeps those at its own, so an entry that ends in a dot lets nothing pass.
-/
namespace ScriptSandbox.Ascii

theorem lower_of_large {c : Char} (large : 128 ≤ c.toNat) : lower c = c := by
  rw [lower, if_neg]
  rintro ⟨-, capital⟩
  have bound : c.toNat ≤ 90 := capital
  omega

/-- What holds of the characters of ASCII, and of those that stay as they are, holds of all. -/
private theorem lower_induction (holds : Char → Prop)
    (ascii : ∀ n < 128, holds (Char.ofNat n)) (kept : ∀ c, lower c = c → holds c) (c : Char) :
    holds c := by
  rcases Nat.lt_or_ge c.toNat 128 with small | large
  · exact c.ofNat_toNat ▸ ascii c.toNat small
  · exact kept c (lower_of_large large)

@[simp] theorem lower_lower (c : Char) : lower (lower c) = lower c :=
  lower_induction (fun c => lower (lower c) = lower c) (by decide)
    (fun c same => by rw [same, same]) c

@[simp] theorem map_lower_lower (text : List Char) :
    (text.map lower).map lower = text.map lower := by
  simp

@[simp] theorem lower_eq_dot_iff (c : Char) : lower c = '.' ↔ c = '.' :=
  lower_induction (fun c => lower c = '.' ↔ c = '.') (by decide)
    (fun c same => by rw [same]) c

@[simp] theorem lower_dot : lower '.' = '.' := rfl

end ScriptSandbox.Ascii

namespace ScriptSandbox.Http

/-- An entry names a host when, without the blanks at its ends, it is the host or comes behind
labels and a dot. The case of the letters A to Z does not matter. -/
def Names (entry host : String) : Prop :=
  ∃ name, name.map Ascii.lower = (Blank.trim entry).toList.map Ascii.lower ∧
    (host.toList = name ∨ ∃ labels, host.toList = labels ++ '.' :: name)

/-- An entry that, without the blanks at its ends, ends in a dot. -/
def IsDotted (entry : String) : Prop := (Blank.trim entry).toList.getLast? = some '.'

namespace Rules

variable {policy : Policy} {entry host : String} {url : Url}

/-! ### Hosts in lower case -/

theorem matchesEntry_iff :
    matchesEntry host entry = true ↔
      host.toList = entry.toList ∨ ∃ labels, host.toList = labels ++ '.' :: entry.toList := by
  rw [matchesEntry, Bool.or_eq_true, decide_eq_true_iff, ← String.toList_inj]
  refine or_congr_right ?_
  constructor
  · intro below
    split at below
    next rest found =>
      obtain ⟨labels, split⟩ := List.getLast?_eq_some_iff.mp (of_decide_eq_true below)
      refine ⟨labels, ?_⟩
      rw [Search.before?_eq_some_iff.mp found, split, List.append_assoc]
      rfl
    next => exact absurd below Bool.false_ne_true
  · rintro ⟨labels, split⟩
    have found : Search.before? entry.toList host.toList = some (labels ++ ['.']) :=
      Search.before?_eq_some_iff.mpr (by simp [split])
    simp [found]

/-- A host in lower case is matched by what the rules keep of the entries that name it. -/
theorem matchesEntry_kept_iff (small : host.toList.map Ascii.lower = host.toList) :
    matchesEntry host (Ascii.lowerString (Blank.trim entry)) = true ↔ Names entry host := by
  rw [matchesEntry_iff, Ascii.lowerString, String.toList_ofList]
  constructor
  · intro matched
    exact ⟨_, by simp, matched⟩
  · rintro ⟨name, same, whole | ⟨labels, split⟩⟩
    · left
      rw [← same, ← whole, small]
    · right
      -- The part of the host behind the labels is in lower case as the whole of it is.
      rw [split, List.map_append, List.map_cons] at small
      have lengths : (labels.map Ascii.lower).length = labels.length := List.length_map _
      have parts := (List.append_inj small lengths).2
      refine ⟨labels, ?_⟩
      rw [split, ← same, (List.cons.inj parts).2]

theorem hostName_eq (hosted : url.hostText? = some host) :
    (hostName url).toList = (Blank.dropEnd (· = '.') host.toList).map Ascii.lower := by
  rw [hostName, hosted, String.toList_ofList]

theorem hostName_small (url : Url) :
    (hostName url).toList.map Ascii.lower = (hostName url).toList := by
  cases hosted : url.hostText? with
  | none => rw [hostName, hosted]; rfl
  | some host => simp [hostName_eq hosted]

/-! ### Entries and the rules of a policy -/

theorem bare_of_validate (valid : policy.validate = .ok ()) (listed : entry ∈ policy.allowedDomains) :
    Policy.isBareHost entry = true := by
  unfold Policy.validate at valid
  split at valid
  · cases valid
  · split at valid
    · cases valid
    · split at valid
      · cases valid
      next none => simpa using List.find?_eq_none.mp none entry listed

theorem trim_ne_nil (bare : Policy.isBareHost entry = true) : (Blank.trim entry).toList ≠ [] := by
  intro blank
  simp [Policy.isBareHost, blank] at bare

theorem ne_empty_of_names (bare : Policy.isBareHost entry = true) (named : Names entry host) :
    host ≠ "" := by
  rintro rfl
  obtain ⟨name, same, whole | ⟨labels, split⟩⟩ := named
  · rw [← whole] at same
    exact trim_ne_nil bare (by simpa using same.symm)
  · simp at split

/-- Names are those of an entry that has no dot at its end where they have none there. -/
theorem ends_plain {name : List Char}
    (same : name.map Ascii.lower = (Blank.trim entry).toList.map Ascii.lower)
    (bare : Policy.isBareHost entry = true) (plain : ¬ IsDotted entry) :
    ∃ front last, name = front ++ [last] ∧ last ≠ '.' := by
  rcases name.eq_nil_or_concat with rfl | ⟨front, last, rfl⟩
  · exact absurd (by simpa using same.symm) (trim_ne_nil bare)
  · refine ⟨front, last, by simp, ?_⟩
    rintro rfl
    have ends := congrArg List.getLast? same
    rw [List.getLast?_map, List.getLast?_map] at ends
    have dotted : (Option.map Ascii.lower (front.concat '.').getLast?) = some '.' := by simp
    obtain ⟨c, found, lowered⟩ := Option.map_eq_some_iff.mp (ends.symm.trans dotted)
    rw [Ascii.lower_eq_dot_iff] at lowered
    exact plain (by rw [IsDotted, found, lowered])

/-- Without dots at its end a host is still named by an entry that has none there. -/
theorem names_hostName (hosted : url.hostText? = some host) (bare : Policy.isBareHost entry = true)
    (plain : ¬ IsDotted entry) (named : Names entry host) : Names entry (hostName url) := by
  obtain ⟨name, same, place⟩ := named
  obtain ⟨front, last, rfl, noDot⟩ := ends_plain same bare plain
  -- The host ends as the entry does, so there is nothing to drop at its end.
  have kept : Blank.dropEnd (· = '.') host.toList = host.toList := by
    rcases place with whole | ⟨labels, split⟩
    · simp [whole, Blank.dropEnd, noDot]
    · simp [split, Blank.dropEnd, noDot]
  refine ⟨(front ++ [last]).map Ascii.lower, by rw [Ascii.map_lower_lower, same], ?_⟩
  rw [hostName_eq hosted, kept]
  rcases place with whole | ⟨labels, split⟩
  · exact .inl (by rw [whole])
  · exact .inr ⟨labels.map Ascii.lower, by rw [split, List.map_append, List.map_cons,
      Ascii.lower_dot]⟩

/-- The rules of a policy let a host pass that one of its entries names. -/
theorem allowsHost_iff (valid : policy.validate = .ok ()) :
    (ofPolicy policy).allowsHost (hostName url) = true ↔
      ∃ entry ∈ policy.allowedDomains, Names entry (hostName url) := by
  have kept (entry : String) := @matchesEntry_kept_iff entry _ (hostName_small url)
  simp only [allowsHost, ofPolicy, Bool.and_eq_true, Bool.not_eq_true', List.any_map,
    List.any_eq_true, Function.comp_apply, kept]
  refine ⟨And.right, fun ⟨entry, listed, named⟩ => ⟨?_, entry, listed, named⟩⟩
  simpa using ne_empty_of_names (bare_of_validate valid listed) named

/-- What becomes of a URL whose host is on no list: the consent function is asked under its text, or
it is refused where there is none. -/
def consult (rules : Rules) (raw : String) (url : Url) : Ruling Url :=
  let refusal := Fault.refused (.host (hostName url))
  match rules.consent with
  | none => ⟨.error refusal, []⟩
  | some approves => ⟨if approves raw then .ok url else .error refusal, [.url raw]⟩

theorem consult_ne (rules : Rules) (raw : String) (url : Url) :
    rules.consult raw url ≠ ⟨.ok url, []⟩ := by
  unfold consult
  dsimp only
  split <;> simp

/-- Where there is a list, a URL of the web is decided on by its host. -/
theorem vet_eq {rules : Rules} (web : url.scheme = "http" ∨ url.scheme = "https")
    (listing : rules.allowed ≠ []) (raw : String) :
    rules.vet raw url =
      if rules.allowsHost (hostName url) then ⟨.ok url, []⟩ else rules.consult raw url := by
  have scheme : ¬(url.scheme ≠ "http" ∧ url.scheme ≠ "https") := by
    rcases web with http | https <;> simp [*]
  have nonempty : ¬ rules.allowed.isEmpty = true := by simpa using listing
  unfold vet check consult
  rw [if_neg scheme, if_neg nonempty]
  dsimp only
  split
  · rfl
  · cases rules.consent with
    | none => rfl
    | some approves =>
      dsimp only
      cases approves raw <;> rfl

end Rules

/-- A host that an entry of a valid policy names passes unasked, as that of a call or of a redirect,
unless the entry ends in a dot. Then the host passes only where another entry names it without the
dots at its end; elsewhere the consent function is asked. -/
theorem listed_host_unasked_iff {policy : Policy} (valid : policy.validate = .ok ())
    {entry host : String} (listed : entry ∈ policy.allowedDomains) {url : Url}
    (web : url.scheme = "http" ∨ url.scheme = "https") (hosted : url.hostText? = some host)
    (named : Names entry host) (raw : String) :
    let rules := Rules.ofPolicy policy
    let passes := ¬ IsDotted entry ∨ ∃ other ∈ policy.allowedDomains, Names other (Rules.hostName url)
    (rules.vet raw url = ⟨.ok url, []⟩ ↔ passes) ∧
      (Url.parse raw = .ok url → (rules.checkText raw = ⟨.ok url, []⟩ ↔ passes)) ∧
      (¬ passes → rules.vet raw url = rules.consult raw url) := by
  intro rules passes
  have bare := Rules.bare_of_validate valid listed
  have listing : rules.allowed ≠ [] := by
    simpa [rules, Rules.ofPolicy] using List.ne_nil_of_mem listed
  have decided := Rules.vet_eq web listing raw
  have allowed : rules.allowsHost (Rules.hostName url) = true ↔ passes := by
    rw [Rules.allowsHost_iff valid]
    refine ⟨.inr, fun either => either.elim (fun plain => ?_) id⟩
    exact ⟨entry, listed, Rules.names_hostName hosted bare plain named⟩
  have unasked : rules.vet raw url = ⟨.ok url, []⟩ ↔ passes := by
    rw [decided, ← allowed]
    split
    next passed => simp [passed]
    next refused => simp [refused, Rules.consult_ne]
  refine ⟨unasked, fun parsed => ?_, fun refused => ?_⟩
  · rwa [Rules.checkText, parsed]
  · rw [decided, if_neg (mt allowed.mp refused)]

/-! ### A dot at the end of an entry -/

namespace DottedEntry

/-- A policy for one host, whose name is written with the dot of the root domain. -/
def policy : Policy where
  allowedDomains := [" Example.com. "]

def url : Url where
  scheme := "http"
  host := some (.domain "example.com.")

theorem named : Names " Example.com. " "example.com." :=
  ⟨"example.com.".toList, by decide, .inl rfl⟩

theorem unnamed (other : String) (listed : other ∈ policy.allowedDomains) :
    ¬ Names other (Rules.hostName url) := by
  obtain rfl := List.mem_singleton.mp listed
  rw [← Rules.matchesEntry_kept_iff (Rules.hostName_small url)]
  decide

/-- The policy is valid and its entry names the host, but the host is refused. -/
theorem dotted_host_refused : policy.validate = .ok () ∧ Names " Example.com. " "example.com." ∧
    (Rules.ofPolicy policy).vet "http://example.com./" url =
      ⟨.error (.refused (.host "example.com")), []⟩ := by
  refine ⟨by rfl, named, ?_⟩
  refine (listed_host_unasked_iff rfl List.mem_cons_self (.inl rfl) rfl named _).2.2 ?_
  rintro (plain | ⟨other, listed, names⟩)
  · exact plain rfl
  · exact unnamed other listed names

end DottedEntry

end ScriptSandbox.Http
