import ScriptSandbox.Http.Exchange

/-!
# How redirects are followed

A `Trail` has one case for each way in which the sending of a request goes on, and `follow` takes
exactly such a trail. What holds of the steps of every trail is shown by induction on it.
-/
namespace ScriptSandbox.Http

/-! ### Rulings -/

/-- A URL passes the rules under the text that is shown to the consent function. -/
def Rules.Passes (rules : Rules) (raw : String) (url : Url) : Prop :=
  (rules.check raw url).outcome = .ok ()

theorem Rules.check_refuses {rules : Rules} {raw : String} {url : Url} {fault : Fault}
    (fails : (rules.check raw url).outcome = .error fault) :
    fault = .refused (.scheme url.scheme) ∨ fault = .refused (.host (hostName url)) := by
  unfold check at fails
  split at fails
  · exact .inl (Except.error.inj fails).symm
  · split at fails
    · cases fails
    · right
      simp only at fails
      split at fails
      · cases fails
      · split at fails
        · exact (Except.error.inj fails).symm
        next approves _ =>
          cases approved : approves raw with
          | true => simp [approved] at fails
          | false => simpa [approved, eq_comm] using fails

theorem Rules.passes_of_vet {rules : Rules} {raw : String} {url found : Url}
    (allowed : (rules.vet raw url).outcome = .ok found) : found = url ∧ rules.Passes raw url := by
  unfold vet at allowed
  cases outcome : (rules.check raw url).outcome with
  | ok => exact ⟨by simpa [outcome, Except.map, eq_comm] using allowed, outcome⟩
  | error => simp [outcome, Except.map] at allowed

theorem Rules.Passes.vet {rules : Rules} {raw : String} {url : Url} (passes : rules.Passes raw url) :
    (rules.vet raw url).outcome = .ok url := by
  have checked : (rules.check raw url).outcome = .ok () := passes
  simp [Rules.vet, checked, Except.map]

theorem Rules.vet_error_iff {rules : Rules} {raw : String} {url : Url} {fault : Fault} :
    (rules.vet raw url).outcome = .error fault ↔ (rules.check raw url).outcome = .error fault := by
  unfold vet
  cases outcome : (rules.check raw url).outcome <;> simp [outcome, Except.map]

theorem Rules.passes_of_checkText {rules : Rules} {raw : String} {url : Url}
    (allowed : (rules.checkText raw).outcome = .ok url) :
    Url.parse raw = .ok url ∧ rules.checkText raw = rules.vet raw url ∧ rules.Passes raw url := by
  unfold checkText at allowed ⊢
  cases parsed : Url.parse raw with
  | error => simp [parsed] at allowed
  | ok found =>
    simp only [parsed] at allowed ⊢
    obtain ⟨rfl, passes⟩ := passes_of_vet allowed
    exact ⟨rfl, rfl, passes⟩

/-! ### Errors of the engine -/

/-- Errors of the engine's own, however many, do not hide a refusal that lies behind them. -/
theorem EngineError.toFault_refused {error : EngineError} {nearer further : List ErrorSource}
    {cause : Refusal} (chain : error.sources = nearer ++ .sandbox (.refused cause) :: further)
    (foreign : ∀ source ∈ nearer, source.refusal? = none) : error.toFault = .refused cause := by
  have passed : nearer.findSome? ErrorSource.refusal? = none :=
    List.findSome?_eq_none_iff.mpr foreign
  have found : error.sources.findSome? ErrorSource.refusal? = some cause := by
    rw [chain, List.findSome?_append, passed]
    rfl
  simp [toFault, found]

theorem redirectFault_refused (request : Request) (cause : Refusal) :
    redirectFault request (.refused cause) = .refused cause :=
  EngineError.toFault_refused (List.nil_append _).symm (by simp)

/-! ### Trails -/

/-- How the sending of a request goes on when at most some redirects may be followed. -/
inductive Trail (rules : Rules) (network : Network) : Nat → Request → Exchange Response → Prop where
  | ended {hops : Nat} {request : Request} {outcome : Except Fault Response}
      (stays : ∀ response, network request = .response response →
        redirectTarget? request response = none)
      (unrefused : ∀ cause, outcome ≠ .error (.refused cause)) :
      Trail rules network hops request ⟨outcome, [.sent request]⟩
  | stopped {request : Request} {cause : HttpFault} :
      Trail rules network 0 request ⟨.error (.http cause), [.sent request]⟩
  | refused {hops : Nat} {request : Request} {response : Response} {target : Url} {cause : Refusal}
      (answers : network request = .response response)
      (leads : redirectTarget? request response = some target)
      (fails : (rules.check target.text target).outcome = .error (.refused cause)) :
      Trail rules network (hops + 1) request
        ⟨.error (.refused cause),
          [.sent request, .checked target.text (rules.vet target.text target)]⟩
  | passed {hops : Nat} {request : Request} {response : Response} {target : Url}
      {rest : Exchange Response}
      (answers : network request = .response response)
      (leads : redirectTarget? request response = some target)
      (passes : rules.Passes target.text target)
      (later : Trail rules network hops (request.redirected response.status target) rest) :
      Trail rules network (hops + 1) request
        ⟨rest.outcome,
          .sent request :: .checked target.text (rules.vet target.text target) :: rest.events⟩

/-- The first request of a trail that leads nowhere. -/
private theorem trail_of_silence {rules : Rules} {network : Network} (hops : Nat)
    {request : Request} (silent : ∀ response, network request ≠ .response response) :
    Trail rules network hops request ⟨.error (sendingFault request), [.sent request]⟩ := by
  apply Trail.ended
  · intro response answers
    exact absurd answers (silent response)
  · simp [sendingFault, EngineError.toFault]

private theorem trail_of_answer {rules : Rules} {network : Network} (hops : Nat) {request : Request}
    {response : Response} (answers : network request = .response response)
    (stays : redirectTarget? request response = none) :
    Trail rules network hops request ⟨.ok response, [.sent request]⟩ := by
  refine .ended (fun other answers' => ?_) (by simp)
  rw [answers] at answers'
  cases answers'
  exact stays

/-- What is sent to follow redirects goes along a trail. -/
theorem follow_trail (rules : Rules) (network : Network) (hops : Nat) (request : Request) :
    Trail rules network hops request (follow rules network hops request) := by
  induction hops generalizing request with
  | zero =>
    unfold follow
    split
    next silent => exact trail_of_silence 0 (by simp [silent])
    next silent => exact trail_of_silence 0 (by simp [silent])
    next response answers =>
      split
      next stays => exact trail_of_answer 0 answers stays
      -- Where no redirect is left, the target is not even checked.
      · exact .stopped
  | succ hops ih =>
    unfold follow
    split
    next silent => exact trail_of_silence _ (by simp [silent])
    next silent => exact trail_of_silence _ (by simp [silent])
    next response answers =>
      split
      next stays => exact trail_of_answer _ answers stays
      next target leads =>
        simp only
        split
        next fault fails =>
          -- The refusal comes back through the engine's own error, and is found in its sources.
          have fails := Rules.vet_error_iff.mp fails
          rcases Rules.check_refuses fails with rfl | rfl <;>
          · rw [redirectFault_refused]
            exact .refused answers leads fails
        next found allowed =>
          obtain ⟨rfl, passes⟩ := Rules.passes_of_vet allowed
          exact .passed answers leads passes (ih _)

@[simp] theorem Event.request?_sent (request : Request) :
    (sent request).request? = some request := rfl

@[simp] theorem Event.request?_checked (raw : String) (ruling : Ruling Url) :
    (checked raw ruling).request? = none := rfl

@[simp] theorem Request.redirected_url (request : Request) (status : Nat) (target : Url) :
    (request.redirected status target).url = target := by
  unfold redirected
  split <;> rfl

namespace Trail

variable {rules : Rules} {network : Network} {hops : Nat} {request : Request}
  {exchange : Exchange Response}

/-- After the first request, each one is sent right after its URL passed the rules under its own
text. -/
theorem sent_after_check (trail : Trail rules network hops request exchange)
    {earlier later : List Event} {sent : Request}
    (steps : exchange.events = earlier ++ .sent sent :: later) :
    (earlier = [] ∧ sent = request) ∨
      earlier.getLast? = some (.checked sent.url.text (rules.vet sent.url.text sent.url)) ∧
        rules.Passes sent.url.text sent.url := by
  induction trail generalizing earlier with
  | ended | stopped =>
    cases earlier with
    | nil => simp_all
    | cons => simp at steps
  | refused =>
    match earlier with
    | [] => simp_all
    | [_] => simp at steps
    | _ :: _ :: _ => simp at steps
  | @passed hops request response target rest answers leads passes later ih =>
    match earlier with
    | [] => simp_all
    | [_] => simp at steps
    | first :: second :: before =>
      -- The first request of the rest follows the check in front of it, a later one its own.
      right
      simp only [List.cons_append, List.cons.injEq] at steps
      obtain ⟨_, rfl, steps⟩ := steps
      rcases ih steps with ⟨rfl, rfl⟩ | ⟨checked, passed⟩
      · simpa using passes
      · cases before with
        | nil => simp at checked
        | cons => exact ⟨by simpa using checked, passed⟩

/-- At most one request more is sent than redirects may be followed. -/
theorem sent_length (trail : Trail rules network hops request exchange) :
    (exchange.events.filterMap Event.request?).length ≤ hops + 1 := by
  induction trail with
  | ended | stopped | refused => simp [List.filterMap_cons]
  | passed _ _ _ _ ih => simpa [List.filterMap_cons] using ih

/-- After a redirect to a URL that does not pass nothing is sent, and the refusal is the outcome
unless no redirect could be followed any more. -/
theorem refused_redirect (trail : Trail rules network hops request exchange)
    {earlier later : List Event} {sent : Request} {response : Response} {target : Url}
    {cause : Refusal} (steps : exchange.events = earlier ++ .sent sent :: later)
    (answers : network sent = .response response)
    (leads : redirectTarget? sent response = some target)
    (fails : (rules.check target.text target).outcome = .error (.refused cause)) :
    later.filterMap Event.request? = [] ∧
      ((exchange.events.filterMap Event.request?).length ≤ hops →
        exchange.outcome = .error (.refused cause)) := by
  induction trail generalizing earlier with
  | ended stays =>
    match earlier with
    | [] =>
      obtain ⟨rfl, rfl⟩ : _ = sent ∧ [] = later := by simpa using steps
      simp [stays response answers] at leads
    | _ :: _ => simp at steps
  | stopped =>
    match earlier with
    | [] =>
      obtain ⟨rfl, rfl⟩ : _ = sent ∧ [] = later := by simpa using steps
      simp
    | _ :: _ => simp at steps
  | refused answers' leads' fails' =>
    match earlier with
    | [] =>
      -- The network answers a request in one way, so this is the refusal that ends the trail.
      simp only [List.nil_append, List.cons.injEq, Event.sent.injEq] at steps
      obtain ⟨rfl, rfl⟩ := steps
      rw [answers'] at answers
      cases answers
      rw [leads'] at leads
      cases leads
      rw [fails'] at fails
      cases fails
      simp [List.filterMap_cons]
    | [_] => simp at steps
    | _ :: _ :: _ => simp at steps
  | passed answers' leads' passes _ ih =>
    match earlier with
    | [] =>
      simp only [List.nil_append, List.cons.injEq, Event.sent.injEq] at steps
      obtain ⟨rfl, rfl⟩ := steps
      rw [answers'] at answers
      cases answers
      rw [leads'] at leads
      cases leads
      -- This target passes, so it is not the refused one.
      rw [passes] at fails
      cases fails
    | [_] => simp at steps
    | _ :: _ :: before =>
      simp only [List.cons_append, List.cons.injEq] at steps
      obtain ⟨_, _, steps⟩ := steps
      obtain ⟨quiet, outcome⟩ := ih steps
      exact ⟨quiet, by simpa [List.filterMap_cons] using outcome⟩

/-- A refusal that ends a trail is one of the rules. -/
theorem refusal (trail : Trail rules network hops request exchange) {cause : Refusal}
    (fails : exchange.outcome = .error (.refused cause)) :
    ∃ raw url, (rules.check raw url).outcome = .error (.refused cause) := by
  induction trail with
  | ended _ unrefused => exact absurd fails (unrefused cause)
  | stopped => cases fails
  | refused _ _ fails' =>
    cases fails
    exact ⟨_, _, fails'⟩
  | passed _ _ _ _ ih => exact ih fails

end Trail

end ScriptSandbox.Http
