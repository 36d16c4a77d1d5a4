import ScriptSandbox.Bridge.Builtin
import ScriptSandbox.Proofs.Http.Bodies
import ScriptSandbox.Proofs.Http.Redirects

/-!
# How many redirects are followed

A chain of redirects leads from one request to another. All of a chain is followed that is shorter
than the limit, and the response at its end is what the call answers. The limit counts the requests
and not the redirects between them, so a chain as long as the limit already fails, at the request
that is redirected last.
-/
namespace ScriptSandbox.Http

/-- The requests that are redirected on the way from one request to another, to URLs that pass. -/
inductive Chain (rules : Rules) (network : Network) : Request → List Request → Request → Prop where
  | here {request : Request} : Chain rules network request [] request
  | further {request last : Request} {response : Response} {target : Url} {passed : List Request}
      (answers : network request = .response response)
      (leads : redirectTarget? request response = some target)
      (passes : rules.Passes target.text target)
      (later : Chain rules network (request.redirected response.status target) passed last) :
      Chain rules network request (request :: passed) last

/-- The requests of an exchange, in order. -/
def Exchange.sent {α : Type} (exchange : Exchange α) : List Request :=
  exchange.events.filterMap Event.request?

section

variable {rules : Rules} {network : Network} {first last : Request} {passed : List Request}

theorem Chain.split {earlier later : List Request}
    (chain : Chain rules network first (earlier ++ later) last) :
    ∃ middle, Chain rules network first earlier middle ∧ Chain rules network middle later last := by
  induction earlier generalizing first with
  | nil => exact ⟨first, .here, chain⟩
  | cons request earlier ih =>
    cases chain with
    | further answers leads passes rest =>
      obtain ⟨middle, onWay, further⟩ := ih rest
      exact ⟨middle, .further answers leads passes onWay, further⟩

theorem follow_further {request : Request} {response : Response} {target : Url}
    (answers : network request = .response response)
    (leads : redirectTarget? request response = some target)
    (passes : rules.Passes target.text target) (hops : Nat) :
    follow rules network (hops + 1) request =
      let rest := follow rules network hops (request.redirected response.status target)
      ⟨rest.outcome,
        .sent request :: .checked target.text (rules.vet target.text target) :: rest.events⟩ := by
  rw [follow]
  simp only [answers, leads, passes.vet]
  rfl

/-- A chain is followed as far as redirects may be, and what may be followed beyond it is left for
its end. -/
theorem follow_of_chain (chain : Chain rules network first passed last) (hops : Nat) :
    (follow rules network (passed.length + hops) first).outcome =
        (follow rules network hops last).outcome ∧
      (follow rules network (passed.length + hops) first).sent =
        passed ++ (follow rules network hops last).sent := by
  induction chain with
  | here => simp
  | @further request last response target passed answers leads passes later ih =>
    obtain ⟨outcome, sent⟩ := ih
    have count : (request :: passed).length + hops = passed.length + hops + 1 := by
      rw [List.length_cons]
      omega
    rw [count, follow_further answers leads passes]
    constructor
    · exact outcome
    · -- Between two requests there is only the check of the second one.
      simpa [Exchange.sent, List.filterMap_cons] using sent

/-- The request at the end of a chain has a response that leads nowhere else, and its body stays
within a limit. -/
structure Ends (network : Network) (limit : Nat) (request : Request) (response : Response) :
    Prop where
  answers : network request = .response response
  stays : redirectTarget? request response = none
  fits : response.body.Fits limit

theorem follow_of_ends {limit : Nat} {response : Response}
    (ends : Ends network limit last response) (hops : Nat) :
    follow rules network hops last = ⟨.ok response, [.sent last]⟩ := by
  unfold follow
  simp only [ends.answers, ends.stays]

/-- A request whose redirect may not be followed any more is the last one. -/
theorem follow_of_redirected (chain : Chain rules network first (first :: passed) last) :
    follow rules network 0 first =
      ⟨.error (.http (.redirecting (shown first.url))), [.sent first]⟩ := by
  cases chain with
  | further answers leads =>
    rw [follow]
    simp only [answers, leads]
    rfl

/-- A chain that is longer than redirects may be followed is left at the first request that is
redirected once more. -/
theorem follow_of_long {hops : Nat} (chain : Chain rules network first passed last)
    (long : hops < passed.length) :
    (follow rules network hops first).outcome =
        .error (.http (.redirecting (shown passed[hops].url))) ∧
      (follow rules network hops first).sent = passed.take (hops + 1) := by
  have parts : passed = passed.take hops ++ passed[hops] :: passed.drop (hops + 1) := by
    rw [← List.drop_eq_getElem_cons long, List.take_append_drop]
  have size : (passed.take hops).length = hops := List.length_take_of_le (Nat.le_of_lt long)
  rw [parts] at chain
  obtain ⟨middle, before, behind⟩ := chain.split
  obtain rfl : passed[hops] = middle := by
    cases behind
    rfl
  have followed := follow_of_chain before 0
  rw [size, Nat.add_zero, follow_of_redirected behind] at followed
  constructor
  · exact followed.1
  · rw [followed.2, List.take_succ_eq_append_getElem long]
    rfl

theorem send_of_short {limit : Nat} {response : Response} (sendable : isSendable first.url = true)
    (chain : Chain rules network first passed last) (short : passed.length < maxRedirects)
    (ends : Ends network limit last response) :
    (send rules network first).outcome = .ok response ∧
      (send rules network first).sent = passed ++ [last] := by
  obtain ⟨left, count⟩ : ∃ left, maxRedirects - 1 = passed.length + left :=
    Nat.exists_eq_add_of_le (by omega)
  have followed := follow_of_chain chain left
  rw [← count, follow_of_ends ends] at followed
  rw [send, if_pos sendable]
  exact followed

theorem send_of_long (sendable : isSendable first.url = true)
    (chain : Chain rules network first passed last) (long : maxRedirects ≤ passed.length) :
    ∃ stop, passed[maxRedirects - 1]? = some stop ∧
      (send rules network first).outcome = .error (.http (.redirecting (shown stop.url))) ∧
      (send rules network first).sent = passed.take maxRedirects := by
  have inside : maxRedirects - 1 < passed.length := Nat.lt_of_lt_of_le (by decide) long
  refine ⟨passed[maxRedirects - 1], List.getElem?_eq_getElem inside, ?_⟩
  rw [send, if_pos sendable]
  exact follow_of_long chain inside

end

/-- An errand whose URL and draft can be used answers what becomes of its request. -/
theorem Client.run_of_allowed {client : Client} {errand : Errand} {url : Url} {draft : Draft}
    (allowed : (client.rules.checkText errand.url).outcome = .ok url)
    (drafted : errand.draft = .ok draft) :
    let exchange := send client.rules client.network (draft.toRequest url)
    (client.run errand).outcome = (exchange.outcome.bind fun response =>
        (readCapped client.maxResponseBytes response.body).map (errand.present response)) ∧
      (client.run errand).sent = exchange.sent := by
  simp only [run, fetch, allowed, drafted, Exchange.map, Exchange.sent]
  constructor
  · cases (send client.rules client.network (draft.toRequest url)).outcome with
    | error => rfl
    | ok response =>
      cases read : readCapped client.maxResponseBytes response.body <;>
        simp [Except.bind, Except.map, read]
  · simp [List.filterMap_cons]

end ScriptSandbox.Http

namespace ScriptSandbox.Bridge

open Http

/-- A call whose request can be sent and is then redirected along a chain. -/
structure Journey (client : Client) (action : HttpAction) (call : Call) where
  errand : Errand
  wanted : action.errand call = .ok errand
  kept : call.cancelled = false
  url : Url
  allowed : (client.rules.checkText errand.url).outcome = .ok url
  draft : Draft
  drafted : errand.draft = .ok draft
  sendable : isSendable url = true
  passed : List Http.Request
  last : Http.Request
  chain : Chain client.rules client.network (draft.toRequest url) passed last

/-- How such a call ends. -/
structure Concludes {client : Client} {action : HttpAction} {call : Call}
    (journey : Journey client action call) (outcome : Outcome) : Prop where
  /-- Behind fewer redirects than the limit, the last response is the answer. -/
  followed : journey.passed.length < maxRedirects → ∀ response,
    Ends client.network client.maxResponseBytes journey.last response →
    outcome.answer = .value (journey.errand.present response response.body.content) ∧
      outcome.sent = journey.passed ++ [journey.last]
  /-- With as many redirects as the limit or more, the call fails at the last request it may send. -/
  stopped : maxRedirects ≤ journey.passed.length → ∃ stop,
    journey.passed[maxRedirects - 1]? = some stop ∧
      outcome.answer = .failed (.http (.redirecting (shown stop.url))) ∧
      outcome.sent = journey.passed.take maxRedirects

section

variable {client : Client} {action : HttpAction} {call : Call}

theorem Journey.runHttp_eq (journey : Journey client action call) (files : Files.Tree) :
    (runHttp client files action call).answer = .ofExcept (client.run journey.errand).outcome ∧
      (runHttp client files action call).sent = (client.run journey.errand).sent := by
  simp only [runHttp, journey.wanted, journey.kept]
  exact ⟨rfl, rfl⟩

theorem Journey.followed (journey : Journey client action call) (files : Files.Tree)
    (short : journey.passed.length < maxRedirects) {response : Response}
    (ends : Ends client.network client.maxResponseBytes journey.last response) :
    (runHttp client files action call).answer =
        .value (journey.errand.present response response.body.content) ∧
      (runHttp client files action call).sent = journey.passed ++ [journey.last] := by
  obtain ⟨answer, sent⟩ := journey.runHttp_eq files
  obtain ⟨outcome, requests⟩ := Client.run_of_allowed journey.allowed journey.drafted
  have sendable : isSendable (journey.draft.toRequest journey.url).url = true := journey.sendable
  obtain ⟨arrived, visited⟩ := send_of_short sendable journey.chain short ends
  have read := readCapped_eq_ok_iff.mpr ⟨ends.fits, rfl⟩
  constructor
  · rw [answer, outcome, arrived]
    simp [Except.bind, Except.map, read, Answer.ofExcept]
  · rw [sent, requests, visited]

/-- A call follows fewer redirects than the limit to the response at their end, and fails at the one
that reaches the limit. -/
theorem redirects_followed_below_limit (access : Access) (time : Nat) (files : Files.Tree)
    (action : HttpAction) (call : Call) (journey : Journey access.client action call) :
    Concludes journey ((Builtin.http action).run access time files call) := by
  constructor
  case followed =>
    intro short response ends
    exact journey.followed files short ends
  case stopped =>
    intro long
    obtain ⟨answer, sent⟩ := journey.runHttp_eq files
    obtain ⟨outcome, requests⟩ := Client.run_of_allowed journey.allowed journey.drafted
    have sendable : isSendable (journey.draft.toRequest journey.url).url = true := journey.sendable
    obtain ⟨stop, place, failed, visited⟩ := send_of_long sendable journey.chain long
    refine ⟨stop, place, ?_, ?_⟩
    · rw [Builtin.run, answer, outcome, failed]
      rfl
    · rw [Builtin.run, sent, requests, visited]

end

/-! ### Ten redirects -/

namespace TenRedirects

/-- The places of a server, by number. -/
def place (number : Nat) : Url where
  scheme := "http"
  host := some (.ipv6 [0, 0, 0, 0, 0, 0, 0, 1])
  route := .segments [Nat.repr number]

/-- The request for a place, which tells from where it was led there. -/
def request : Nat → Http.Request
  | 0 => ⟨"GET", place 0, [], none⟩
  | number + 1 =>
    ⟨"GET", place (number + 1), [("referer", Utf8.ofString (place number).text)], none⟩

/-- The answer that leads to the place with the next number. -/
def redirect (number : Nat) : Response where
  status := 302
  headers := [("location", Utf8.ofString ("/" ++ Nat.repr (number + 1)))]
  body := ⟨some 0, [], true⟩

def page : Response := ⟨200, [], ⟨some 5, [Utf8.ofString "final"], true⟩⟩

/-- A server that redirects from each of its first ten places to the next one. -/
def network : Network := fun asked =>
  match (List.range 10).find? fun number => asked.url = place number with
  | some number => .response (redirect number)
  | none => .response page

def access : Access := ⟨⟨["box"], none⟩, .ofPolicy {} network, fun _ => {}⟩

def call : Call := ⟨"http.get", [.string "http://[::1]/0"], false⟩

theorem answers : ∀ number < 10, network (request number) = .response (redirect number) := by
  decide +kernel

theorem leads : ∀ number < 10,
    redirectTarget? (request number) (redirect number) = some (place (number + 1)) := by
  decide +kernel

theorem passes (number : Nat) :
    access.client.rules.Passes (place number).text (place number) := rfl

theorem redirected (number : Nat) :
    (request number).redirected (redirect number).status (place (number + 1)) =
      request (number + 1) := by
  cases number <;> rfl

theorem chain_to_page (count : Nat) (inside : count ≤ 10) :
    Chain access.client.rules network (request (10 - count))
      ((List.range' (10 - count) count).map request) (request 10) := by
  induction count with
  | zero => exact .here
  | succ count ih =>
    have below : 10 - (count + 1) < 10 := by omega
    have next : 10 - (count + 1) + 1 = 10 - count := by omega
    rw [List.range'_succ, List.map_cons, next]
    refine .further (answers _ below) (leads _ below) (passes _) ?_
    rw [redirected, next]
    exact ih (by omega)

theorem parsed : Url.parse "http://[::1]/0" = .ok (place 0) := by
  have found : (Url.parse "http://[::1]/0").toOption = some (place 0) := by decide +kernel
  cases text : Url.parse "http://[::1]/0" with
  | error => simp [text, Except.toOption] at found
  | ok url => simpa [text, Except.toOption] using found

theorem allowed : (access.client.rules.checkText "http://[::1]/0").outcome = .ok (place 0) := by
  rw [Rules.checkText, parsed]
  exact Rules.Passes.vet rfl

def journey : Journey access.client .get call where
  errand := .get "http://[::1]/0"
  wanted := rfl
  kept := rfl
  url := place 0
  allowed := allowed
  draft := ⟨"GET", [], none⟩
  drafted := rfl
  sendable := by decide +kernel
  passed := (List.range' 0 10).map request
  last := request 10
  chain := chain_to_page 10 (by decide)

/-- The tenth redirect leads to a page, and the call fails all the same. -/
theorem tenth_redirect_fails :
    journey.passed.length = 10 ∧
      Ends network access.client.maxResponseBytes journey.last page ∧
      ((Builtin.http .get).run access 0 Files.Tree.empty call).answer =
        .failed (.http (.redirecting "http://[::1]/9")) := by
  have long : maxRedirects ≤ journey.passed.length := by decide
  have ends : Ends network access.client.maxResponseBytes journey.last page := by
    constructor
    · decide +kernel
    · decide +kernel
    · exact ⟨by decide +kernel, by decide +kernel, rfl⟩
  obtain ⟨stop, found, failed, -⟩ :=
    (redirects_followed_below_limit access 0 Files.Tree.empty .get call journey).stopped long
  obtain rfl : request 9 = stop := Option.some.inj found
  exact ⟨by decide, ends, failed⟩

end TenRedirects

end ScriptSandbox.Bridge
