import ScriptSandbox.Fault
import ScriptSandbox.Proofs.Text.Search

/-!
# The wording of refusals

A refusal in the sandbox's own words starts with a lead that tells its kind, and goes on with what a
script chose. The leads are so different that a message occurs in another one only in what the script
chose of that, or as its beginning.
-/
namespace ScriptSandbox.Refusal

/-- A refusal in the sandbox's own words. -/
def IsOwn : Refusal → Prop
  | other _ => False
  | _ => True

/-- What every message of a kind starts with. -/
def lead : Refusal → List Char
  | absolutePath _ => "absolute paths are not allowed: ".toList
  | escapingPath _ => "path '".toList
  | rootDeletion => "refusing to delete the sandbox root".toList
  | scheme _ => "scheme '".toList
  | host _ => "host '".toList
  | other _ => []

/-- What a message goes on with. -/
def body : Refusal → List Char
  | absolutePath path => path.toList
  | escapingPath path => path.toList ++ "' escapes the sandbox root".toList
  | rootDeletion => []
  | scheme name => name.toList ++ "' is not allowed; only http and https".toList
  | host name => name.toList ++ "' is not in the network allowlist".toList
  | other text => text.toList

theorem message_eq (cause : Refusal) : cause.message.toList = cause.lead ++ cause.body := by
  have quoted (start text ending : String) :
      (start ++ text ++ ending).toList = start.toList ++ (text.toList ++ ending.toList) := by
    simp
  cases cause with
  | absolutePath path => exact String.toList_append
  | escapingPath path => exact quoted _ _ _
  | rootDeletion => exact (List.append_nil _).symm
  | scheme name => exact quoted _ _ _
  | host name => exact quoted _ _ _
  | other text => rfl

/-- The leads of the sandbox's own words. -/
def leads : List (List Char) :=
  [absolutePath "", escapingPath "", rootDeletion, scheme "", host ""].map lead

theorem lead_mem {cause : Refusal} (own : cause.IsOwn) : cause.lead ∈ leads := by
  cases cause with
  | absolutePath => exact .head _
  | escapingPath => exact .tail _ (.head _)
  | rootDeletion => exact .tail _ (.tail _ (.head _))
  | scheme => exact .tail _ (.tail _ (.tail _ (.head _)))
  | host => exact .tail _ (.tail _ (.tail _ (.tail _ (.head _))))
  | other => cases own

theorem leads_fresh : ∀ start ∈ leads, ∀ lead ∈ leads, Search.Fresh 1 start lead := by
  decide +kernel

theorem leads_differ : ∀ start ∈ leads, ∀ lead ∈ leads, start <+: lead → start = lead := by
  decide +kernel

/-- A message shows in another: in what follows the lead there, or as a beginning of it. -/
def ShowsIn (inner outer : Refusal) : Prop :=
  inner.message.toList <:+: outer.body ∨ inner.lead = outer.lead ∧ inner.body <+: outer.body

theorem begins_iff {inner outer : Refusal} (own : inner.IsOwn) (own' : outer.IsOwn) :
    inner.lead ++ inner.body <+: outer.lead ++ outer.body ↔
      inner.lead = outer.lead ∧ inner.body <+: outer.body := by
  constructor
  · intro begins
    have same : inner.lead = outer.lead := by
      rcases List.prefix_or_prefix_of_prefix ((List.prefix_append _ _).trans begins)
        (List.prefix_append outer.lead outer.body) with below | above
      · exact leads_differ _ (lead_mem own) _ (lead_mem own') below
      · exact (leads_differ _ (lead_mem own') _ (lead_mem own) above).symm
    rw [same] at begins
    exact ⟨same, (List.prefix_append_right_inj _).mp begins⟩
  · rintro ⟨same, begins⟩
    rw [same]
    exact (List.prefix_append_right_inj _).mpr begins

/-- Where a message in the sandbox's own words occurs in another one. -/
theorem occurs_iff_showsIn {inner outer : Refusal} (own : inner.IsOwn) (own' : outer.IsOwn) :
    inner.message.toList <:+: outer.message.toList ↔ inner.ShowsIn outer := by
  rw [ShowsIn, message_eq inner, message_eq outer,
    Search.occurs_iff_of_fresh_behind (leads_fresh _ (lead_mem own) _ (lead_mem own')),
    begins_iff own own', or_comm]

end ScriptSandbox.Refusal
