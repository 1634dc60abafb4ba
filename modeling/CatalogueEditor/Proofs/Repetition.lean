import Mathlib.Algebra.Group.Nat.Defs
import Mathlib.Tactic.Choose
import CatalogueEditor.Proofs.FormDelivery

/-!
Attempts that are repeated. A call makes another attempt while the one before has failed for now and
repetitions are left; each attempt sends the same request, and what comes of the last one is the ending of
the call. The failures before it are waited for and forgotten. A request that has no address is attempted
once.
-/

namespace CatalogueEditor

namespace Endpoint

/-- The endpoint after a request was sent so many times. -/
def sendTimes (request : Request) : Nat → Endpoint → Endpoint
  | 0, endpoint => endpoint
  | times + 1, endpoint => sendTimes request times (endpoint.send request).2

/-- What comes of a request that was sent so many times before. -/
def outcome (request : Request) (endpoint : Endpoint) (times : Nat) : Except Fault Response :=
  ((endpoint.sendTimes request times).send request).1

theorem sendTimes_succ (request : Request) (times : Nat) (endpoint : Endpoint) :
    endpoint.sendTimes request (times + 1) = ((endpoint.sendTimes request times).send request).2 := by
  induction times generalizing endpoint with
  | zero => rfl
  | succ times ih => exact ih (endpoint.send request).2

/-- Each sending adds the exchanges that are made for it. -/
theorem sendTimes_exchanges (request : Request) (times : Nat) (endpoint : Endpoint) :
    ∃ made : Nat → List Exchange,
      (endpoint.sendTimes request times).exchanges =
        endpoint.exchanges ++ (List.range times).flatMap made ∧
      ∀ index < times, Follows request (made index) (endpoint.outcome request index) := by
  choose made added follows using fun index => send_follows request (endpoint.sendTimes request index)
  refine ⟨made, ?_, fun index _ => follows index⟩
  induction times with
  | zero => simp [sendTimes]
  | succ times ih =>
      rw [sendTimes_succ, added, ih, List.range_succ, List.flatMap_append, List.flatMap_singleton,
        List.append_assoc]

end Endpoint

namespace Client

/-- Without a response, or with that of a gateway, the same request may succeed when it is sent again. -/
def IsTransient : Except Fault Response → Prop
  | .error _ => True
  | .ok response => response.status = 502 ∨ response.status = 503 ∨ response.status = 504

/-- How an operation ends that this has come of. -/
inductive Describes (operation : Operation) : Except Fault Response → Ending → Prop
  | accepted (response : Response) (low : 200 ≤ response.status) (high : response.status ≤ 299) :
      Describes operation (.ok response) (.ok ())
  | refused (response : Response) (body : Option String)
      (other : response.status < 200 ∨ 299 < response.status)
      (shown : body = if response.text = "" then none else some response.text) :
      Describes operation (.ok response) (.error (.answered operation.name response.status body))
  | late (detail : String) :
      Describes operation (.error .silent) (.error (.timeout operation.name detail))
  | broken (fault : Fault) (detail : String) (other : fault ≠ .silent) :
      Describes operation (.error fault) (.error (.network operation.name detail))

variable {operation : Operation} {result : Except Fault Response} {ended : Ending}

theorem ofFault_describes (fault : Fault) :
    Describes operation (.error fault) (.error (ofFault operation fault)) := by
  cases fault with
  | silent => exact .late _
  | _ => exact .broken _ _ nofun

theorem ending_describes (response : Response) :
    Describes operation (.ok response) (ending operation response) := by
  unfold ending
  split
  · rename_i success
    simp only [Status.isSuccess, Bool.and_eq_true, decide_eq_true_eq] at success
    exact .accepted response success.1 (by grind)
  · rename_i failure
    simp only [Status.isSuccess, Bool.and_eq_true, decide_eq_true_eq] at failure
    exact .refused response _ (by grind) rfl

theorem Describes.ok_iff (describes : Describes operation result ended) :
    ended = .ok () ↔ ∃ response, result = .ok response ∧ 200 ≤ response.status ∧ response.status ≤ 299 := by
  cases describes with
  | accepted response low high => simp [low, high]
  | refused response body other shown =>
      simp only [reduceCtorEq, Except.ok.injEq, exists_eq_left', false_iff]
      grind
  | late | broken => simp

/-- Whether an attempt is repeated follows from what has come of it. -/
theorem Describes.isRetryable_iff {cause : RequestError}
    (describes : Describes operation result (.error cause)) :
    cause.isRetryable ↔ IsTransient result := by
  cases describes with
  | refused response body other shown =>
      simp only [RequestError.isRetryable, RequestError.isGatewayStatus, IsTransient, Bool.and_eq_true,
        decide_eq_true_eq]
      grind
  | late | broken => simp [RequestError.isRetryable, IsTransient]

theorem Describes.not_transient (describes : Describes operation result (.ok ())) :
    ¬ IsTransient result := by
  cases describes with
  | accepted response low high =>
      simp only [IsTransient]
      grind

/-- The run makes attempts with these outcomes, up to the first one that is no failure for now or to the
last one allowed; it ends as that one, and pauses behind each before. -/
structure Run.Repeats (run : Run) (operation : Operation) (retries : Nat)
    (outcome : Nat → Except Fault Response) (pause : Nat → Nat) (last : Nat) : Prop where
  bound : last ≤ retries
  transient : ∀ index < last, IsTransient (outcome index)
  settled : last < retries → ¬ IsTransient (outcome last)
  attempts : run.endings.length = last + 1
  described : ∀ index ≤ last, ∃ ended, run.endings[index]? = some ended ∧
    Describes operation (outcome index) ended
  waits : run.waits.map UInt64.toNat = (List.range last).map pause
  ending : Describes operation (outcome last) run.ending

theorem Run.getLast?_endings (run : Run) : run.endings.getLast? = some run.ending := by
  simp [Run.endings]

namespace Run.Repeats

variable {run : Run} {retries last : Nat} {outcome : Nat → Except Fault Response} {pause : Nat → Nat}

theorem once (attempt : Attempt) (described : Describes operation (outcome 0) attempt.ending)
    (settled : 0 < retries → ¬ IsTransient (outcome 0)) :
    (Run.ofAttempt attempt).Repeats operation retries outcome pause 0 where
  bound := Nat.zero_le _
  transient := nofun
  settled := settled
  attempts := rfl
  described := by
    intro index first
    obtain rfl := Nat.le_zero.mp first
    exact ⟨attempt.ending, rfl, described⟩
  waits := rfl
  ending := described

/-- A failure for now stands before the attempts that follow it. -/
theorem again {cause : RequestError} (failed : Describes operation (outcome 0) (.error cause))
    (transient : IsTransient (outcome 0)) {wait : UInt64} (paused : wait.toNat = pause 0)
    (rest : run.Repeats operation retries (fun index => outcome (index + 1))
      (fun index => pause (index + 1)) last) :
    (run.behind cause wait).Repeats operation (retries + 1) outcome pause (last + 1) where
  bound := Nat.succ_le_succ rest.bound
  transient
    | 0, _ => transient
    | index + 1, before => rest.transient index (Nat.lt_of_succ_lt_succ before)
  settled before := rest.settled (Nat.lt_of_succ_lt_succ before)
  attempts := congrArg (· + 1) rest.attempts
  described
    | 0, _ => ⟨.error cause, rfl, failed⟩
    | index + 1, before => rest.described index (Nat.le_of_succ_le_succ before)
  waits := by
    rw [List.range_succ_eq_map, List.map_cons, List.map_map]
    exact congrArg₂ List.cons paused rest.waits
  ending := rest.ending

theorem logged (repeats : run.Repeats operation retries outcome pause last) (lines : List LogLine) :
    (run.logged lines).Repeats operation retries outcome pause last :=
  { repeats with }

end Run.Repeats

theorem succ_toNat {number : UInt32} (fits : number.toNat + 1 < UInt32.size) :
    (number + 1).toNat = number.toNat + 1 := by
  rw [UInt32.toNat_add, UInt32.toNat_one]
  exact Nat.mod_eq_of_lt fits

theorem min_toNat (number : UInt32) : (min number 16).toNat = min number.toNat 16 := by
  change (if number ≤ 16 then number else 16).toNat = min number.toNat (16 : UInt32).toNat
  split
  · rename_i few
    rw [Nat.min_eq_left (UInt32.le_iff_toNat_le.mp few)]
  · rename_i many
    rw [Nat.min_eq_right (Nat.le_of_not_le (mt UInt32.le_iff_toNat_le.mpr many))]

/-- The pause doubles with each attempt until it reaches its limit. -/
theorem wait_toNat (number : UInt32) : (wait number).toNat = min (100 * 2 ^ number.toNat) 5000 := by
  by_cases early : number.toNat < 16
  · have table : ∀ count < 16, (wait (UInt32.ofNat count)).toNat = min (100 * 2 ^ count) 5000 := by
      decide
    have counted := table number.toNat early
    rwa [UInt32.ofNat_toNat] at counted
  · have late : min number 16 = 16 := by
      rw [← UInt32.toNat_inj, min_toNat]
      exact Nat.min_eq_right (Nat.le_of_not_lt early)
    have long : 2 ^ 16 ≤ 2 ^ number.toNat := Nat.pow_le_pow_right (by decide) (Nat.le_of_not_lt early)
    rw [wait, late]
    rw [Nat.min_eq_right (by omega)]
    rfl

/-- An attempt at an operation is a sending of the request. -/
structure Sends (operation : Operation) (request : Request) (act : Endpoint → Attempt) : Prop where
  ending (endpoint : Endpoint) : Describes operation (endpoint.send request).1 (act endpoint).ending
  endpoint (endpoint : Endpoint) : (act endpoint).endpoint = (endpoint.send request).2

theorem attempt_sends (operation : Operation) (address : String) (request : Request) :
    Sends operation request (attempt operation address (.ok request)) := by
  constructor <;> intro endpoint <;> simp only [attempt]
  · rcases endpoint.send request with ⟨fault | response, after⟩
    · exact ofFault_describes fault
    · exact ending_describes response
  · rcases endpoint.send request with ⟨fault | response, after⟩ <;> rfl

/-- Attempts are made until one is no failure for now, or none is left. The endpoint gets as many sendings
of the request. -/
theorem repeated_repeats {operation : Operation} {request : Request} {act : Endpoint → Attempt}
    (sends : Sends operation request act) (retries : UInt32) (left : Nat) (number : UInt32)
    (endpoint : Endpoint) (fits : number.toNat + left < UInt32.size) :
    ∃ last, (repeated operation retries act left number endpoint).Repeats operation left
        (endpoint.outcome request) (fun index => min (100 * 2 ^ (number.toNat + index)) 5000) last ∧
      (repeated operation retries act left number endpoint).endpoint =
        endpoint.sendTimes request (last + 1) := by
  have words : UInt32.size = 4294967296 := rfl
  induction left generalizing number endpoint with
  | zero =>
      exact ⟨0, .once (act endpoint) (sends.ending endpoint) nofun, sends.endpoint endpoint⟩
  | succ left ih =>
      have first := sends.ending endpoint
      simp only [repeated]
      split
      · rename_i succeeded
        rw [succeeded] at first
        exact ⟨0, .once (act endpoint) (sends.ending endpoint) fun _ => first.not_transient,
          sends.endpoint endpoint⟩
      · rename_i cause failed
        rw [failed] at first
        split
        · rename_i retryable
          have next := @succ_toNat number (by omega)
          obtain ⟨last, rest, sent⟩ := ih (number + 1) (act endpoint).endpoint (by omega)
          have later : (act endpoint).endpoint.outcome request =
              fun index => endpoint.outcome request (index + 1) := by
            rw [sends.endpoint]
            rfl
          have transient := first.isRetryable_iff.mp retryable
          refine ⟨last + 1, (Run.Repeats.again first transient ?_ ?_).logged _, ?_⟩
          · exact wait_toNat number
          · simpa only [later, next, Nat.add_assoc, Nat.add_comm 1] using rest
          · exact sent.trans (congrArg (Endpoint.sendTimes request (last + 1)) (sends.endpoint endpoint))
        · rename_i permanent
          exact ⟨0, .once (act endpoint) (sends.ending endpoint) fun _ =>
            mt first.isRetryable_iff.mpr permanent, sends.endpoint endpoint⟩

/-! Every attempt is logged with its address. -/

/-- What is logged when an attempt at a call begins. -/
def posted (config : EndpointConfig) (call : Call) : LogLine :=
  debug call.operation ("POST " ++ config.address call.operation)

theorem posted_ne_debug (config : EndpointConfig) (call : Call) {text : String}
    (other : ¬ "POST ".toList <+: text.toList) :
    debug call.operation text ≠ posted config call := by
  intro same
  have texts : text = "POST " ++ config.address call.operation := by simpa [posted, debug] using same
  apply other
  rw [texts, String.toList_append]
  exact List.prefix_append _ _

theorem responseLog_unposted (config : EndpointConfig) (call : Call) (response : Response) :
    (responseLog call.operation response).count (posted config call) = 0 := by
  rw [List.count_eq_zero]
  intro member
  rcases List.mem_cons.mp member with status | body
  · exact posted_ne_debug config call (by simp) status.symm
  · split at body
    · cases body
    · exact posted_ne_debug config call (by simp) (List.mem_singleton.mp body).symm

theorem attempt_posted (config : EndpointConfig) (call : Call) (request : Except UrlProblem Request)
    (endpoint : Endpoint) :
    (attempt call.operation (config.address call.operation) request endpoint).log.count
      (posted config call) = 1 := by
  unfold attempt
  split
  · simp [posted]
  · split
    · simp [posted]
    · rename_i response _ _
      have unposted := responseLog_unposted config call response
      simp only [posted] at unposted
      simp [posted, unposted]

theorem repeated_posted (config : EndpointConfig) (call : Call) (retries : UInt32) {act : Endpoint → Attempt}
    (posts : ∀ endpoint, (act endpoint).log.count (posted config call) = 1) (left : Nat) (number : UInt32)
    (endpoint : Endpoint) :
    (repeated call.operation retries act left number endpoint).log.count (posted config call) =
      (repeated call.operation retries act left number endpoint).endings.length := by
  induction left generalizing number endpoint with
  | zero => exact posts endpoint
  | succ left ih =>
      simp only [repeated]
      split
      · exact posts endpoint
      · rename_i cause _
        split
        · have warning : retryLine call.operation number retries cause ≠ posted config call := by
            simp [retryLine, posted, debug]
          have rest := ih (number + 1) (act endpoint).endpoint
          simp only [Run.endings, List.length_append, List.length_map, List.length_singleton] at rest
          simp only [Run.logged, Run.behind, Run.endings, List.count_append, posts,
            List.count_singleton, beq_eq_false_iff_ne.mpr warning, rest, List.length_append,
            List.length_map, List.length_cons, List.length_nil, Bool.false_eq_true, ↓reduceIte]
          omega
        · exact posts endpoint

theorem intent_ne_posted (config : EndpointConfig) (call : Call) :
    (⟨.debug, call.intent⟩ : LogLine) ≠ posted config call := by
  intro same
  -- What is intended starts with a capital letter, what is posted with a bracket.
  have first : (call.intent.toList).head? = some '[' := by
    have texts := congrArg LogLine.text same
    simp only [posted, debug] at texts
    rw [texts]
    simp
  have capital : ∀ opening ∈ ["Saving message ", "Adding message ", "Removing message "],
      ∀ rest : String, (opening ++ rest).toList.head? ≠ some '[' := by
    simp
  cases call with
  | save key value =>
      apply capital "Saving message " (by simp) (key ++ " = " ++ Text.summarize value)
      rw [← first, ← String.append_assoc, ← String.append_assoc]
      rfl
  | add key value =>
      apply capital "Adding message " (by simp) (key ++ " = " ++ Text.summarize value)
      rw [← first, ← String.append_assoc, ← String.append_assoc]
      rfl
  | remove key => exact capital "Removing message " (by simp) key first

/-! Calls. -/

theorem noRepetition_unposted (config : EndpointConfig) (call : Call) :
    (noRepetition call.operation config).count (posted config call) = 0 := by
  unfold noRepetition
  split
  · rfl
  · simp [posted, debug]

/-- A call whose address cannot be read is attempted once, and sends nothing. -/
theorem perform_unaddressed {config : EndpointConfig} {call : Call} {problem : UrlProblem}
    (unaddressed : call.request config = .error problem) (endpoint : Endpoint) :
    (perform config call endpoint).endings =
        [.error (.network call.operation.name Fault.badAddress.message)] ∧
      (perform config call endpoint).waits = [] ∧
      (perform config call endpoint).log.count (posted config call) = 1 ∧
      (perform config call endpoint).endpoint = endpoint := by
  have once := attempt_posted config call (.error problem) endpoint
  have silent := noRepetition_unposted config call
  have intent := beq_eq_false_iff_ne.mpr (intent_ne_posted config call)
  simp only [perform, unaddressed]
  refine ⟨rfl, rfl, ?_, rfl⟩
  simp only [Run.logged, Run.ofAttempt, List.count_append, List.count_singleton, intent, once, silent,
    Bool.false_eq_true, ↓reduceIte]

theorem perform_addressed {config : EndpointConfig} {call : Call} {request : Request}
    (addressed : call.request config = .ok request) (endpoint : Endpoint) :
    ∃ last, (perform config call endpoint).Repeats call.operation config.maxRetries.toNat
        (endpoint.outcome request) (fun index => min (100 * 2 ^ index) 5000) last ∧
      (perform config call endpoint).log.count (posted config call) = last + 1 ∧
      (perform config call endpoint).endpoint = endpoint.sendTimes request (last + 1) := by
  have sends := attempt_sends call.operation (config.address call.operation) request
  obtain ⟨last, repeats, sent⟩ := repeated_repeats sends config.maxRetries config.maxRetries.toNat 0
    endpoint (by simpa using config.maxRetries.toNat_lt_size)
  have posts := repeated_posted config call config.maxRetries (attempt_posted config call (.ok request))
    config.maxRetries.toNat 0 endpoint
  have intent := beq_eq_false_iff_ne.mpr (intent_ne_posted config call)
  simp only [perform, addressed]
  refine ⟨last, ?_, ?_, sent⟩
  · simpa only [UInt32.toNat_zero, Nat.zero_add] using repeats.logged _
  · rw [repeats.attempts] at posts
    simp only [Run.logged, List.count_append, List.count_singleton, intent, posts, Bool.false_eq_true,
      ↓reduceIte, Nat.zero_add]

/-- An operation is attempted until an attempt is no failure for now, or as often again as the
configuration allows. Every attempt is logged and sends the same request; the pauses double up to five
seconds; and the operation ends as the last attempt. If its address cannot be read there is nothing to
send, and it is attempted once. -/
theorem repeats_while_transient (config : EndpointConfig) (call : Call) (endpoint : Endpoint) :
    let run := perform config call endpoint
    (∀ request, call.request config = .ok request → ∃ last made,
      run.Repeats call.operation config.maxRetries.toNat (endpoint.outcome request)
        (fun index => min (100 * 2 ^ index) 5000) last ∧
      run.log.count (posted config call) = last + 1 ∧
      run.endpoint.exchanges = endpoint.exchanges ++ (List.range (last + 1)).flatMap made ∧
      (∀ index ≤ last, Endpoint.Follows request (made index) (endpoint.outcome request index)) ∧
      (run.ending = .ok () ↔ ∃ response, endpoint.outcome request last = .ok response ∧
        200 ≤ response.status ∧ response.status ≤ 299)) ∧
    (∀ problem, call.request config = .error problem →
      run.endings = [.error (.network call.operation.name Fault.badAddress.message)] ∧
      run.waits = [] ∧ run.log.count (posted config call) = 1 ∧ run.endpoint = endpoint) := by
  intro run
  refine ⟨fun request addressed => ?_, fun problem unaddressed => perform_unaddressed unaddressed endpoint⟩
  obtain ⟨last, repeats, posts, sent⟩ := perform_addressed addressed endpoint
  obtain ⟨made, exchanges, follows⟩ := Endpoint.sendTimes_exchanges request (last + 1) endpoint
  refine ⟨last, made, repeats, posts, sent ▸ exchanges, fun index early => ?_, repeats.ending.ok_iff⟩
  exact follows index (Nat.lt_succ_of_le early)

/-- An endpoint behind a gateway that fails for a moment: the second of three possible attempts succeeds. -/
theorem gateway_failure_repeated :
    let config : EndpointConfig := { EndpointConfig.ofBase "http://[::1]/xmlui" "CAT" with maxRetries := 2 }
    let endpoint : Endpoint := ⟨true, [.response ⟨503, [], false, none⟩], []⟩
    let run := perform config (.save "k" "v") endpoint
    ∃ request, Call.request config (.save "k" "v") = .ok request ∧ ∃ made,
      run.Repeats .save 2 (endpoint.outcome request) (fun index => min (100 * 2 ^ index) 5000) 1 ∧
      run.log.count (posted config (.save "k" "v")) = 2 ∧
      run.endpoint.exchanges = (List.range 2).flatMap made ∧
      (∀ index ≤ 1, Endpoint.Follows request (made index) (endpoint.outcome request index)) ∧
      run.ending = .ok () := by
  intro config endpoint run
  have addressed : (Call.request config (.save "k" "v")).isOk := by decide +kernel
  cases made : Call.request config (.save "k" "v") with
  | error problem => simp [made, Except.isOk, Except.toBool] at addressed
  | ok request =>
      obtain ⟨last, sent, repeats, posts, exchanges, follows, _⟩ :=
        (repeats_while_transient config (.save "k" "v") endpoint).1 request made
      have twice : run.endings.length = 2 := by decide +kernel
      have fine : run.ending.isOk := by decide +kernel
      obtain rfl : last = 1 := Nat.succ.inj (repeats.attempts.symm.trans twice)
      exact ⟨request, rfl, sent, repeats, posts, exchanges, follows, eq_ok_of_isOk fine⟩

/-- The blank behind the host is trimmed from the base, but not from the addresses below it. They cannot be
read, and a save is attempted once although it fails for now and might be attempted again. -/
theorem unreadable_address_not_repeated :
    let config : EndpointConfig := { EndpointConfig.ofBase "http://[::1] " "CAT" with maxRetries := 1 }
    config.check = .ok () ∧ ∀ endpoint outcome pause last,
      ¬ (perform config (.save "k" "v") endpoint).Repeats .save config.maxRetries.toNat outcome pause
        last := by
  intro config
  have valid : config.check.isOk := by decide +kernel
  have unreadable : (Call.request config (.save "k" "v")).isOk = false := by decide +kernel
  refine ⟨eq_ok_of_isOk valid, fun endpoint outcome pause last repeats => ?_⟩
  cases made : Call.request config (.save "k" "v") with
  | ok request => simp [made, Except.isOk, Except.toBool] at unreadable
  | error problem =>
      obtain ⟨endings, _⟩ := perform_unaddressed made endpoint
      have attempts := repeats.attempts
      rw [endings] at attempts
      obtain rfl : last = 0 := (Nat.succ.inj attempts).symm
      -- The one attempt failed for now, so that another one should follow.
      have described := repeats.ending
      have ended : (perform config (.save "k" "v") endpoint).ending =
          .error (.network Operation.save.name Fault.badAddress.message) := by
        have closing := (perform config (.save "k" "v") endpoint).getLast?_endings
        rw [endings] at closing
        exact (Option.some.inj closing).symm
      rw [ended] at described
      exact repeats.settled (by decide) (described.isRetryable_iff.mp rfl)

end Client
end CatalogueEditor
