import ScriptSandbox.Proofs.Http.Chains
import ScriptSandbox.Proofs.Text.Octets
import Mathlib.Data.String.Basic

/-!
# Which headers of a response are shown

A script that asks for a response gets its headers as a table with one text for each name. Shown is
the last value of the name that consists of visible characters, blanks and tabs. So a value in UTF-8
is missing exactly when it holds another character, or when a later value of its name takes its
place.
-/
namespace ScriptSandbox

namespace Json

/-! ### Fields in order -/

/-- Fields are listed by increasing name, each name once. -/
def Ordered (fields : List (String × Json)) : Prop := (fields.map Prod.fst).Pairwise (· < ·)

theorem ordered_cons_iff {field : String × Json} {fields : List (String × Json)} :
    Ordered (field :: fields) ↔ (∀ other ∈ fields, field.1 < other.1) ∧ Ordered fields := by
  simp [Ordered]

/-- A field that is put among others takes the place of the one with its name. -/
theorem mem_setField_iff {key : String} {value : Json} {fields : List (String × Json)}
    (ordered : Ordered fields) {field : String × Json} :
    field ∈ setField key value fields ↔
      field = (key, value) ∨ (field.1 ≠ key ∧ field ∈ fields) := by
  induction fields with
  | nil => simp [setField]
  | cons first rest ih =>
    obtain ⟨other, old⟩ := first
    obtain ⟨before, further⟩ := ordered_cons_iff.mp ordered
    unfold setField
    split
    next less =>
      -- The fields from here on come later by name, so none of them has the name of the new one.
      have others : ∀ field ∈ (other, old) :: rest, field.1 ≠ key := by
        rw [List.forall_mem_cons]
        exact ⟨less.ne', fun field among => (less.trans (before field among)).ne'⟩
      rw [List.mem_cons]
      exact or_congr_right ⟨fun among => ⟨others field among, among⟩, And.right⟩
    next =>
      split
      next same =>
        subst same
        rw [List.mem_cons, List.mem_cons]
        refine or_congr_right ⟨fun among => ⟨(before field among).ne', .inr among⟩, ?_⟩
        rintro ⟨differ, rfl | among⟩
        · exact absurd rfl differ
        · exact among
      next differ =>
        rw [List.mem_cons, ih further, List.mem_cons]
        constructor
        · rintro (rfl | rfl | ⟨differs, among⟩)
          · exact .inr ⟨fun same => differ same.symm, .inl rfl⟩
          · exact .inl rfl
          · exact .inr ⟨differs, .inr among⟩
        · rintro (rfl | ⟨differs, rfl | among⟩)
          · exact .inr (.inl rfl)
          · exact .inl rfl
          · exact .inr (.inr ⟨differs, among⟩)

theorem ordered_setField (key : String) (value : Json) {fields : List (String × Json)}
    (ordered : Ordered fields) : Ordered (setField key value fields) := by
  induction fields with
  | nil => simp [setField, Ordered]
  | cons first rest ih =>
    obtain ⟨other, old⟩ := first
    obtain ⟨before, further⟩ := ordered_cons_iff.mp ordered
    unfold setField
    split
    next less =>
      refine ordered_cons_iff.mpr ⟨?_, ordered⟩
      rw [List.forall_mem_cons]
      exact ⟨less, fun field among => less.trans (before field among)⟩
    next notLess =>
      split
      next same => exact ordered_cons_iff.mpr ⟨same ▸ before, further⟩
      next differ =>
        -- What comes behind the first field is the new one or an old one.
        refine ordered_cons_iff.mpr ⟨fun field among => ?_, ih further⟩
        rcases (mem_setField_iff further).mp among with rfl | ⟨-, among⟩
        · exact lt_of_le_of_ne (not_lt.mp notLess) (Ne.symm differ)
        · exact before field among

end Json

namespace Http

/-! ### Visible values -/

/-- A text of visible ASCII characters, blanks and tabs. -/
def Visible (text : String) : Prop :=
  ∀ letter ∈ text.toList, letter = '\t' ∨ (0x20 ≤ letter.toNat ∧ letter.toNat < 0x7F)

private theorem isVisible_char (letter : Char) :
    isVisible (String.utf8EncodeChar letter) = true ↔
      letter = '\t' ∨ (0x20 ≤ letter.toNat ∧ letter.toNat < 0x7F) := by
  rcases Nat.lt_or_ge letter.toNat 0x80 with ascii | other
  · have tab : letter = '\t' ↔ letter.toNat = 9 := by
      rw [← Char.toNat_inj]
      rfl
    rw [Utf8.utf8EncodeChar_ascii ascii, tab]
    simp [isVisible, ← UInt8.toNat_inj, UInt8.le_iff_toNat_le, UInt8.lt_iff_toNat_lt,
      Utf8.toNat_ascii ascii]
  · -- No byte of another character is visible.
    obtain ⟨lead, rest, written, -⟩ := Utf8.utf8EncodeChar_eq_cons letter
    have high := Utf8.le_of_mem_utf8EncodeChar other (written ▸ List.mem_cons_self)
    have tab : letter ≠ '\t' := by
      rintro rfl
      exact absurd other (by decide)
    rw [written]
    simp [isVisible, ← UInt8.toNat_inj, UInt8.le_iff_toNat_le, UInt8.lt_iff_toNat_lt, tab]
    omega

theorem isVisible_ofString_iff {text : String} :
    isVisible (Utf8.ofString text) = true ↔ Visible text := by
  rw [Utf8.ofString, Visible]
  induction text.toList with
  | nil => simp [isVisible]
  | cons letter rest ih =>
    have parts : isVisible (Utf8.encode (letter :: rest)) =
        (isVisible (String.utf8EncodeChar letter) && isVisible (Utf8.encode rest)) := by
      rw [Utf8.encode_cons]
      exact List.all_append
    rw [parts, Bool.and_eq_true, isVisible_char, ih, List.forall_mem_cons]

theorem ofString_injective : Function.Injective Utf8.ofString := by
  intro first second same
  have read := congrArg Utf8.toStringLossy same
  simpa [Utf8.ofString] using read

theorem exists_eq_ofString_of_isVisible {value : Bytes} (visible : isVisible value = true) :
    ∃ text, value = Utf8.ofString text := by
  induction value with
  | nil => exact ⟨"", rfl⟩
  | cons byte rest ih =>
    rw [isVisible, List.all_cons, Bool.and_eq_true] at visible
    obtain ⟨text, rfl⟩ := ih visible.2
    have ascii : byte.toNat < 0x80 := by
      have shown := visible.1
      simp [← UInt8.toNat_inj, UInt8.lt_iff_toNat_lt] at shown
      omega
    refine ⟨String.ofList (Char.ofNat byte.toNat :: text.toList), ?_⟩
    rw [Utf8.ofString, Utf8.ofString, String.toList_ofList, Utf8.encode_cons,
      Utf8.utf8EncodeChar_ofNat (.inl (by omega)), if_pos (by omega)]
    simp

/-! ### The value that counts -/

/-- The last visible value of a name. -/
def LastVisible (headers : Headers) (name text : String) : Prop :=
  ∃ earlier later, headers = earlier ++ (name, Utf8.ofString text) :: later ∧ Visible text ∧
    ∀ other, (name, Utf8.ofString other) ∈ later → ¬ Visible other

theorem lastVisible_concat_iff {headers : Headers} {key : String} {value : Bytes}
    {name text : String} :
    LastVisible (headers ++ [(key, value)]) name text ↔
      (name = key ∧ Utf8.ofString text = value ∧ Visible text) ∨
        (LastVisible headers name text ∧
          ∀ other, (name, Utf8.ofString other) = (key, value) → ¬ Visible other) := by
  constructor
  · rintro ⟨earlier, later, parts, visible, hidden⟩
    -- The last header is the one that counts, or it comes behind it.
    rcases List.eq_nil_or_concat later with rfl | ⟨between, last, rfl⟩
    · obtain ⟨-, same⟩ := List.append_inj' parts rfl
      obtain ⟨rfl, rfl⟩ : key = name ∧ value = Utf8.ofString text := by simpa using same
      exact .inl ⟨rfl, rfl, visible⟩
    · rw [List.concat_eq_append, ← List.cons_append, ← List.append_assoc] at parts
      obtain ⟨before, same⟩ := List.append_inj' parts rfl
      obtain rfl : (key, value) = last := by simpa using same
      rw [List.concat_eq_append] at hidden
      refine .inr ⟨⟨earlier, between, before, visible, fun other among => ?_⟩, fun other same => ?_⟩
      · exact hidden other (List.mem_append_left _ among)
      · exact hidden other (List.mem_append_right _ (same ▸ List.mem_singleton_self _))
  · rintro (⟨rfl, rfl, visible⟩ | ⟨⟨earlier, later, rfl, visible, hidden⟩, last⟩)
    · exact ⟨headers, [], rfl, visible, by simp⟩
    · refine ⟨earlier, later ++ [(key, value)], by simp, visible, fun other among => ?_⟩
      rcases List.mem_append.mp among with among | among
      · exact hidden other among
      · exact last other (List.mem_singleton.mp among)

theorem LastVisible.prepend {headers : Headers} {name text : String}
    (last : LastVisible headers name text) (before : Headers) :
    LastVisible (before ++ headers) name text := by
  obtain ⟨earlier, later, rfl, visible, hidden⟩ := last
  exact ⟨before ++ earlier, later, (List.append_assoc ..).symm, visible, hidden⟩

theorem LastVisible.unique {headers : Headers} {name first second : String}
    (one : LastVisible headers name first) (other : LastVisible headers name second) :
    first = second := by
  induction headers using List.reverseRecOn with
  | nil =>
    obtain ⟨earlier, later, parts, -⟩ := one
    simp at parts
  | append_singleton headers header ih =>
    obtain ⟨key, value⟩ := header
    rw [lastVisible_concat_iff] at one other
    rcases one with ⟨rfl, rfl, visible⟩ | ⟨before, hidden⟩
    · rcases other with ⟨-, same, -⟩ | ⟨-, hidden⟩
      · exact ofString_injective same.symm
      · exact absurd visible (hidden first rfl)
    · rcases other with ⟨rfl, rfl, visible⟩ | ⟨before', -⟩
      · exact absurd visible (hidden second rfl)
      · exact ih before before'

theorem exists_lastVisible {headers : Headers} {name text : String}
    (sent : (name, Utf8.ofString text) ∈ headers) (visible : Visible text) :
    ∃ last, LastVisible headers name last := by
  induction headers using List.reverseRecOn with
  | nil => simp at sent
  | append_singleton headers header ih =>
    obtain ⟨key, value⟩ := header
    simp only [lastVisible_concat_iff]
    -- Either the last header shows a text under the name, or it leaves what came before.
    by_cases shown : ∃ other, (name, Utf8.ofString other) = (key, value) ∧ Visible other
    · obtain ⟨other, same, visible⟩ := shown
      obtain ⟨rfl, rfl⟩ := Prod.mk.inj same
      exact ⟨other, .inl ⟨rfl, rfl, visible⟩⟩
    · rcases List.mem_append.mp sent with before | here
      · obtain ⟨last, found⟩ := ih before
        exact ⟨last, .inr ⟨found, fun other same visible => shown ⟨other, same, visible⟩⟩⟩
      · exact absurd ⟨text, List.mem_singleton.mp here, visible⟩ shown

/-- A table holds the last visible value of each name, by increasing name. -/
structure HoldsLast (headers : Headers) (table : List (String × Json)) : Prop where
  ordered : Json.Ordered table
  entries : ∀ name value, (name, value) ∈ table ↔
    ∃ text, value = .string text ∧ LastVisible headers name text

namespace HoldsLast

variable {headers : Headers} {table : List (String × Json)}

/-- A visible value takes the place of the one before it. -/
theorem put (holds : HoldsLast headers table) (key : String) {shown : String}
    (visible : Visible shown) :
    HoldsLast (headers ++ [(key, Utf8.ofString shown)])
      (Json.setField key (.string shown) table) := by
  refine ⟨Json.ordered_setField _ _ holds.ordered, fun name value => ?_⟩
  rw [Json.mem_setField_iff holds.ordered, holds.entries]
  simp only [lastVisible_concat_iff]
  constructor
  · rintro (same | ⟨differs, text, rfl, last⟩)
    · obtain ⟨rfl, rfl⟩ := Prod.mk.inj same
      exact ⟨shown, rfl, .inl ⟨rfl, rfl, visible⟩⟩
    · exact ⟨text, rfl, .inr ⟨last, fun other same => absurd (Prod.mk.inj same).1 differs⟩⟩
  · rintro ⟨text, rfl, ⟨rfl, same, -⟩ | ⟨last, hidden⟩⟩
    · obtain rfl := ofString_injective same
      exact .inl rfl
    · refine .inr ⟨?_, text, rfl, last⟩
      rintro rfl
      exact hidden shown rfl visible

/-- A value that is not visible changes nothing. -/
theorem pass (holds : HoldsLast headers table) {key : String} {value : Bytes}
    (hidden : ¬ isVisible value = true) : HoldsLast (headers ++ [(key, value)]) table := by
  have unseen : ∀ name other, (name, Utf8.ofString other) = (key, value) → ¬ Visible other := by
    rintro name other same visible
    obtain ⟨-, rfl⟩ := Prod.mk.inj same
    exact hidden (isVisible_ofString_iff.mpr visible)
  refine ⟨holds.ordered, fun name value => ?_⟩
  rw [holds.entries]
  simp only [lastVisible_concat_iff]
  refine exists_congr fun text => and_congr_right fun _ => ?_
  constructor
  · exact fun last => .inr ⟨last, unseen name⟩
  · rintro (⟨rfl, rfl, visible⟩ | ⟨last, -⟩)
    · exact absurd visible (unseen name text rfl)
    · exact last

theorem step (holds : HoldsLast headers table) (header : String × Bytes) :
    HoldsLast (headers ++ [header]) (setVisible table header) := by
  obtain ⟨key, value⟩ := header
  rw [setVisible]
  split
  next shown =>
    obtain ⟨text, rfl⟩ := exists_eq_ofString_of_isVisible shown
    have read : Utf8.toStringLossy (Utf8.ofString text) = text := by simp [Utf8.ofString]
    rw [read]
    exact holds.put key (isVisible_ofString_iff.mp shown)
  next hidden => exact holds.pass hidden

end HoldsLast

theorem visibleHeaders_holdsLast (headers : Headers) :
    HoldsLast headers (visibleHeaders headers) := by
  induction headers using List.reverseRecOn with
  | nil => exact ⟨.nil, by simp [visibleHeaders, LastVisible]⟩
  | append_singleton headers header ih =>
    rw [visibleHeaders, List.foldl_append]
    exact ih.step header

/-- What a table shows of the headers that were sent. -/
structure Shows (headers : Headers) (table : List (String × Json)) : Prop
    extends HoldsLast headers table where
  /-- A name is missing exactly when none of its values is visible. -/
  named : ∀ name, (∃ value, (name, value) ∈ table) ↔
    ∃ text, (name, Utf8.ofString text) ∈ headers ∧ Visible text
  /-- A value in UTF-8 is missing exactly when it is not visible or another one comes later. -/
  valued : ∀ earlier name text later, headers = earlier ++ (name, Utf8.ofString text) :: later →
    ((name, .string text) ∈ table ↔
      Visible text ∧ ∀ other, LastVisible later name other → other = text)

namespace HoldsLast

variable {headers : Headers} {table : List (String × Json)}

theorem named_iff (holds : HoldsLast headers table) (name : String) :
    (∃ value, (name, value) ∈ table) ↔
      ∃ text, (name, Utf8.ofString text) ∈ headers ∧ Visible text := by
  constructor
  · rintro ⟨value, among⟩
    obtain ⟨text, -, earlier, later, rfl, visible, -⟩ := (holds.entries name value).mp among
    exact ⟨text, List.mem_append_right _ List.mem_cons_self, visible⟩
  · rintro ⟨text, sent, visible⟩
    obtain ⟨last, found⟩ := exists_lastVisible sent visible
    exact ⟨.string last, (holds.entries name _).mpr ⟨last, rfl, found⟩⟩

theorem valued_iff {earlier later : Headers} {name text : String}
    (holds : HoldsLast (earlier ++ (name, Utf8.ofString text) :: later) table) :
    (name, .string text) ∈ table ↔
      Visible text ∧ ∀ other, LastVisible later name other → other = text := by
  have displaced : ∀ other, LastVisible later name other →
      LastVisible (earlier ++ (name, Utf8.ofString text) :: later) name other := fun _ last =>
    (last.prepend [(name, Utf8.ofString text)]).prepend earlier
  rw [holds.entries]
  constructor
  · rintro ⟨_, same, last⟩
    obtain rfl := Json.string.inj same
    have visible : Visible text := by
      obtain ⟨-, -, -, visible, -⟩ := last
      exact visible
    exact ⟨visible, fun other found => (displaced other found).unique last⟩
  · rintro ⟨visible, agree⟩
    refine ⟨text, rfl, ?_⟩
    -- A later visible value would have to be the same text, and then it is the one that is shown.
    by_cases found : ∃ other, LastVisible later name other
    · obtain ⟨other, last⟩ := found
      obtain rfl := agree other last
      exact displaced other last
    · refine ⟨earlier, later, rfl, visible, fun other sent shown => found ?_⟩
      exact exists_lastVisible sent shown

theorem shows (holds : HoldsLast headers table) : Shows headers table where
  toHoldsLast := holds
  named := holds.named_iff
  valued := by
    rintro earlier name text later rfl
    exact holds.valued_iff

end HoldsLast

end Http

namespace Bridge

open Http

/-- A script that asks for a response gets the last visible value of each of its headers, and none
of the other values. -/
theorem last_visible_headers_shown (access : Access) (time : Nat) (files : Files.Tree) (call : Call)
    (journey : Journey access.client .request call)
    (short : journey.passed.length < maxRedirects) (response : Response)
    (ends : Ends access.client.network access.client.maxResponseBytes journey.last response) :
    ∃ table, Shows response.headers table ∧
      ((Builtin.http .request).run access time files call).answer = .value (.object [
        ("body", .string (Utf8.toStringLossy response.body.content)),
        ("headers", .object table),
        ("status", .int response.status)]) := by
  have wanted := journey.wanted
  obtain ⟨description, same⟩ : ∃ description, journey.errand = .ofDescription description := by
    rw [HttpAction.errand] at wanted
    split at wanted
    next => simp at wanted
    next _ description _ => exact ⟨description, (Except.ok.inj wanted).symm⟩
  refine ⟨visibleHeaders response.headers, (visibleHeaders_holdsLast _).shows, ?_⟩
  rw [Builtin.run, (journey.followed files short ends).1, same]
  rfl

/-! ### A name with an accent -/

namespace AccentedName

open TenRedirects (place parsed)

/-- A page with a header that is not visible, and with one that is repeated. -/
def page : Response where
  status := 200
  headers := [("x-name", Utf8.ofString "é"), ("x-copy", Utf8.ofString "first"),
    ("x-copy", Utf8.ofString "second")]
  body := ⟨none, [], true⟩

def network : Network := fun _ => .response page

def access : Access := ⟨⟨["box"], none⟩, .ofPolicy {} network, fun _ => {}⟩

def call : Call := ⟨"http.request", [.object [("url", .string "http://[::1]/0")]], false⟩

theorem allowed : (access.client.rules.checkText "http://[::1]/0").outcome = .ok (place 0) := by
  rw [Rules.checkText, parsed]
  exact Rules.Passes.vet rfl

theorem sendable : isSendable (place 0) = true := by decide +kernel

def journey : Journey access.client .request call where
  errand := .ofDescription ⟨"", "http://[::1]/0", [], none⟩
  wanted := rfl
  kept := rfl
  url := place 0
  allowed := allowed
  draft := ⟨"GET", [], none⟩
  drafted := rfl
  sendable := sendable
  passed := []
  last := ⟨"GET", place 0, [], none⟩
  chain := .here

/-- A name in UTF-8 is missing among the headers, and so is the first of two values. -/
theorem accented_name_missing :
    journey.passed.length < maxRedirects ∧
      Ends access.client.network access.client.maxResponseBytes journey.last page ∧
      ∃ table, ((Builtin.http .request).run access 0 Files.Tree.empty call).answer =
          .value (.object [("body", .string ""), ("headers", .object table), ("status", .int 200)]) ∧
        (∀ value, ("x-name", value) ∉ table) ∧
        ("x-copy", .string "first") ∉ table ∧ ("x-copy", .string "second") ∈ table := by
  have short : journey.passed.length < maxRedirects := by decide
  have ends : Ends access.client.network access.client.maxResponseBytes journey.last page := by
    constructor
    · decide +kernel
    · decide +kernel
    · exact ⟨by decide +kernel, by decide +kernel, rfl⟩
  obtain ⟨table, shows, answer⟩ :=
    last_visible_headers_shown access 0 Files.Tree.empty call journey short page ends
  have hidden : ¬ Visible "é" := by
    rw [← isVisible_ofString_iff]
    decide +kernel
  have visible : Visible "second" := by
    rw [← isVisible_ofString_iff]
    decide +kernel
  have second : LastVisible [("x-copy", Utf8.ofString "second")] "x-copy" "second" :=
    ⟨[], [], rfl, visible, by simp⟩
  refine ⟨short, ends, table, answer, fun value among => ?_, fun among => ?_, ?_⟩
  · obtain ⟨text, sent, shown⟩ := (shows.named "x-name").mp ⟨value, among⟩
    have same : Utf8.ofString text = Utf8.ofString "é" := by simpa [page] using sent
    rw [ofString_injective same] at shown
    exact hidden shown
  · have last := ((shows.valued [_] "x-copy" "first" [_] rfl).mp among).2 "second" second
    exact absurd last (by decide)
  · refine (shows.valued [_, _] "x-copy" "second" [] rfl).mpr ⟨visible, ?_⟩
    rintro other ⟨earlier, later, parts, -⟩
    simp at parts

end AccentedName

end Bridge

end ScriptSandbox
