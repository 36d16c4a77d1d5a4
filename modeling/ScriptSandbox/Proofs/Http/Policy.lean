import ScriptSandbox.Bridge.Builtin
import ScriptSandbox.Proofs.Http.Redirects

/-!
# No request leaves the policy

Whatever servers answer, a call sends only requests whose URLs passed the rules directly before, it
sends none when its own URL or its description cannot be used, and it ends at the first redirect
that is refused.
-/
namespace ScriptSandbox.Http

/-! ### Descriptions -/

/-- A description whose method, header names and header values can all be sent. -/
def Description.Usable (description : Description) : Prop :=
  (description.method.isEmpty = true ∨ Ascii.isToken description.method = true) ∧
    ∀ header ∈ description.headers,
      isHeaderName header.1 = true ∧ (Utf8.ofString header.2).all isValueByte = true

private theorem usable_of_headersOf_go {given : List (String × String)} {headers found : Headers}
    (accepted : headersOf.go given headers = .ok found) :
    ∀ header ∈ given,
      isHeaderName header.1 = true ∧ (Utf8.ofString header.2).all isValueByte = true := by
  induction given generalizing headers with
  | nil => simp
  | cons header rest ih =>
    obtain ⟨name, value⟩ := header
    unfold headersOf.go at accepted
    split at accepted
    next named =>
      simp only at accepted
      split at accepted
      next printable =>
        intro other among
        rcases List.mem_cons.mp among with rfl | among
        · exact ⟨named, printable⟩
        · exact ih accepted other among
      · cases accepted
    · cases accepted

theorem Description.usable_of_toDraft {description : Description} {draft : Draft}
    (accepted : description.toDraft = .ok draft) : description.Usable := by
  unfold toDraft at accepted
  split at accepted
  · cases accepted
  next method named =>
    split at accepted
    · cases accepted
    next headers listed =>
      refine ⟨?_, usable_of_headersOf_go listed⟩
      unfold methodOf at named
      split at named
      next empty => exact .inl empty
      next =>
        split at named
        next token => exact .inr token
        next => cases named

/-! ### Errands -/

/-- An errand ends with its check, or a request for the checked URL is sent and its redirects are
followed. -/
theorem Client.run_cases (client : Client) (errand : Errand) :
    (client.run errand).events = [.checked errand.url (client.rules.checkText errand.url)] ∨
      ∃ url draft, (client.rules.checkText errand.url).outcome = .ok url ∧
        errand.draft = .ok draft ∧ ∃ exchange,
          Trail client.rules client.network (maxRedirects - 1) (draft.toRequest url) exchange ∧
          (client.run errand).events =
            .checked errand.url (client.rules.checkText errand.url) :: exchange.events ∧
          ∀ fault, exchange.outcome = .error fault →
            (client.run errand).outcome = .error fault := by
  unfold run fetch
  simp only
  split
  · exact .inl rfl
  next url passes =>
    split
    · exact .inl rfl
    next draft drafted =>
      unfold send
      split
      · refine .inr ⟨url, draft, passes, drafted, _, follow_trail _ _ _ _, rfl, ?_⟩
        intro fault fails
        simp [Exchange.map, fails, Except.bind]
      · exact .inl rfl

end ScriptSandbox.Http

namespace ScriptSandbox.Bridge

open Http

/-! ### Calls -/

/-- A call has no traffic, or that of its errand, whose outcome it answers. -/
theorem runHttp_cases (client : Client) (files : Files.Tree) (action : HttpAction) (call : Call) :
    (runHttp client files action call).traffic = [] ∨
      ∃ errand, action.errand call = .ok errand ∧
        (runHttp client files action call).traffic = (client.run errand).events ∧
        (runHttp client files action call).answer = .ofExcept (client.run errand).outcome := by
  unfold runHttp
  split
  · exact .inl rfl
  next errand wanted =>
    split
    · exact .inl rfl
    · exact .inr ⟨errand, wanted, rfl, rfl⟩

section

variable (client : Client) (files : Files.Tree) (action : HttpAction) (call : Call)

/-- How a call fares: it sends nothing, or what the trail of its checked URL sends. -/
inductive Fared (outcome : Outcome) : Prop where
  | idle (nothing : outcome.sent = [])
  | travelled {errand : Errand} {url : Url} {draft : Draft} {exchange : Exchange Response}
      (wanted : action.errand call = .ok errand)
      (allowed : (client.rules.checkText errand.url).outcome = .ok url)
      (drafted : errand.draft = .ok draft)
      (trail : Trail client.rules client.network (maxRedirects - 1) (draft.toRequest url) exchange)
      (traffic : outcome.traffic =
        .checked errand.url (client.rules.checkText errand.url) :: exchange.events)
      (answer : ∀ fault, exchange.outcome = .error fault → outcome.answer = .failed fault)

theorem runHttp_fared : Fared client action call (runHttp client files action call) := by
  rcases runHttp_cases client files action call with idle | ⟨errand, wanted, traffic, answer⟩
  · exact .idle (by simp [Outcome.sent, idle])
  · rcases client.run_cases errand with
      checked | ⟨url, draft, allowed, drafted, _, trail, steps, fails⟩
    · exact .idle (by simp [Outcome.sent, traffic, checked, List.filterMap_cons])
    · refine .travelled wanted allowed drafted trail (traffic.trans steps) fun fault failed => ?_
      rw [answer, fails fault failed]
      rfl

variable {client files action call}

private theorem sent_ne_nil {outcome : Outcome} {earlier later : List Event} {sent : Http.Request}
    (steps : outcome.traffic = earlier ++ .sent sent :: later) : outcome.sent ≠ [] := by
  simp [Outcome.sent, steps]

theorem runHttp_sent_after_check {earlier later : List Event} {sent : Http.Request}
    (steps : (runHttp client files action call).traffic = earlier ++ .sent sent :: later) :
    ∃ raw, earlier.getLast? = some (.checked raw (client.rules.vet raw sent.url)) ∧
      client.rules.Passes raw sent.url ∧
      (raw = sent.url.text ∨ ∃ errand,
        action.errand call = .ok errand ∧ raw = errand.url ∧ Url.parse raw = .ok sent.url) := by
  cases runHttp_fared client files action call with
  | idle nothing => exact absurd nothing (sent_ne_nil steps)
  | @travelled errand _ _ _ wanted allowed _ trail traffic =>
    rw [traffic] at steps
    cases earlier with
    | nil => simp at steps
    | cons first before =>
      simp only [List.cons_append, List.cons.injEq] at steps
      obtain ⟨rfl, steps⟩ := steps
      -- The first request was checked under the call's own text, later ones under their URL's.
      rcases trail.sent_after_check steps with ⟨rfl, rfl⟩ | ⟨checked, passes⟩
      · obtain ⟨parsed, vetted, passes⟩ := Rules.passes_of_checkText allowed
        refine ⟨errand.url, ?_, passes, .inr ⟨errand, wanted, rfl, parsed⟩⟩
        simp [vetted, Draft.toRequest]
      · refine ⟨sent.url.text, ?_, passes, .inl rfl⟩
        cases before with
        | nil => simp at checked
        | cons => simpa using checked

theorem runHttp_refused_redirect {earlier later : List Event} {sent : Http.Request}
    {response : Response} {target : Url} {fault : Fault}
    (steps : (runHttp client files action call).traffic = earlier ++ .sent sent :: later)
    (answers : client.network sent = .response response)
    (leads : redirectTarget? sent response = some target)
    (fails : (client.rules.check target.text target).outcome = .error fault) :
    later.filterMap Event.request? = [] ∧
      ((runHttp client files action call).sent.length < maxRedirects →
        fault.isRefusal = true ∧ (runHttp client files action call).answer = .failed fault) := by
  cases runHttp_fared client files action call with
  | idle nothing => exact absurd nothing (sent_ne_nil steps)
  | @travelled _ _ _ exchange _ _ _ trail traffic answer =>
    have count : (runHttp client files action call).sent =
        exchange.events.filterMap Event.request? := by
      simp [Outcome.sent, traffic, List.filterMap_cons]
    rw [traffic] at steps
    cases earlier with
    | nil => simp at steps
    | cons first before =>
      simp only [List.cons_append, List.cons.injEq] at steps
      obtain ⟨rfl, steps⟩ := steps
      obtain ⟨cause, rfl⟩ : ∃ cause, fault = .refused cause := by
        rcases Rules.check_refuses fails with rfl | rfl <;> exact ⟨_, rfl⟩
      obtain ⟨quiet, outcome⟩ := trail.refused_redirect steps answers leads fails
      refine ⟨quiet, fun below => ⟨rfl, answer _ (outcome ?_)⟩⟩
      rw [count] at below
      omega

theorem runHttp_sent_length : (runHttp client files action call).sent.length ≤ maxRedirects := by
  cases runHttp_fared client files action call with
  | idle nothing => simp [nothing]
  | travelled _ _ _ trail traffic =>
    have bound := trail.sent_length
    simpa [Outcome.sent, traffic, List.filterMap_cons, maxRedirects] using bound

end

/-- What a call may do under rules on a network. -/
structure StaysWithin (rules : Rules) (network : Network) (action : HttpAction) (call : Call)
    (outcome : Outcome) : Prop where
  /-- Each request is sent right after its URL passed the rules, under its own text or that of the
  call. -/
  sent_after_check : ∀ earlier sent later, outcome.traffic = earlier ++ .sent sent :: later →
    ∃ raw, earlier.getLast? = some (.checked raw (rules.vet raw sent.url)) ∧
      rules.Passes raw sent.url ∧
      (raw = sent.url.text ∨ ∃ errand,
        action.errand call = .ok errand ∧ raw = errand.url ∧ Url.parse raw = .ok sent.url)
  /-- Nothing is sent for a text that is no URL or is refused. -/
  refused_unsent : ∀ errand fault, action.errand call = .ok errand →
    (rules.checkText errand.url).outcome = .error fault → outcome.sent = []
  /-- Nothing is sent for a method, a header name or a header value that cannot be sent. -/
  unusable_unsent : ∀ description, action = .request →
    Description.shape.ofValue (call.arg 0) = .ok description → ¬ description.Usable →
    outcome.sent = []
  /-- After a redirect to a URL that does not pass nothing is sent, and the refusal is the answer
  unless all the requests were sent that can be. -/
  refused_redirect : ∀ earlier sent later response target fault,
    outcome.traffic = earlier ++ .sent sent :: later → network sent = .response response →
    redirectTarget? sent response = some target →
    (rules.check target.text target).outcome = .error fault →
    later.filterMap Event.request? = [] ∧
      (outcome.sent.length < maxRedirects → fault.isRefusal = true ∧ outcome.answer = .failed fault)
  bounded : outcome.sent.length ≤ maxRedirects

/-- Whatever servers answer, the calls of scripts stay within the policy. -/
theorem http_calls_stay_within_policy (policy : Policy) (network : Network)
    (boundary : Files.Boundary) (system : Nat → Files.System) (time : Nat) (files : Files.Tree)
    (action : HttpAction) (call : Call) :
    StaysWithin (.ofPolicy policy) network action call
      ((Builtin.http action).run ⟨boundary, .ofPolicy policy network, system⟩ time files call) where
  sent_after_check _ _ _ steps := runHttp_sent_after_check steps
  refused_unsent errand fault wanted fails := by
    cases runHttp_fared (.ofPolicy policy network) files action call with
    | idle nothing => exact nothing
    | travelled wanted' allowed =>
      rw [wanted] at wanted'
      cases wanted'
      exact absurd (fails.symm.trans allowed) (by simp)
  unusable_unsent description asks read unusable := by
    subst asks
    cases runHttp_fared (.ofPolicy policy network) files .request call with
    | idle nothing => exact nothing
    | travelled wanted _ drafted =>
      simp only [HttpAction.errand, read, Except.ok.injEq] at wanted
      subst wanted
      exact absurd (Description.usable_of_toDraft drafted) unusable
  refused_redirect _ _ _ _ _ _ steps answers leads fails :=
    runHttp_refused_redirect steps answers leads fails
  bounded := runHttp_sent_length

end ScriptSandbox.Bridge
