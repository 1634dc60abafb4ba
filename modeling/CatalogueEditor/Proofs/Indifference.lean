import CatalogueEditor.Proofs.RunHistory
import CatalogueEditor.Proofs.Traffic
import CatalogueEditor.Proofs.FormDelivery
import CatalogueEditor.Session.Online

/-!
Why a request failed, and what a response says in its body, is logged and has no other effect. Two runs
that differ only there show the same, and make the same calls and requests.
-/

namespace CatalogueEditor

/-- What a step reports, without its log. -/
def Report.quiet (report : Report) : Report := { report with log := [] }

/-! Causes. -/

/-- The commands are the same, except that they may deliver different failures. -/
inductive Step.SameButCause : Step → Step → Prop
  | same (command : Step) : SameButCause command command
  | failed (ticket : Nat) (cause other : RequestError) :
      SameButCause (.deliver ticket (.failed cause)) (.deliver ticket (.failed other))

theorem Reply.sameButCause {reply other : Reply} (kind : reply.kind = other.kind) (ticket : Nat) :
    Step.SameButCause (.deliver ticket reply) (.deliver ticket other) := by
  cases reply <;> cases other <;> cases kind
  · exact .same _
  · exact .failed ticket _ _

theorem Work.sayFailure_eq (work : Work) (key : String) (cause : RequestError) :
    ∃ level text, work.sayFailure key cause = work.say level text := by
  unfold sayFailure
  split
  · exact ⟨_, _, rfl⟩
  · exact ⟨_, _, rfl⟩

/-- An operation whose request failed does the same whatever the cause, its log apart. -/
theorem Desk.deliver_failed (desk : Desk) (waiting : Waiting) (cause other : RequestError) :
    (desk.deliver waiting (.failed cause)).work.desk =
        (desk.deliver waiting (.failed other)).work.desk ∧
      (desk.deliver waiting (.failed cause)).work.events =
        (desk.deliver waiting (.failed other)).work.events := by
  cases waiting with
  | save key candidate =>
      obtain ⟨level, text, said⟩ := Work.sayFailure_eq
        (((Work.start desk).setState key .viewing).render (.renderState key .viewing)) key cause
      obtain ⟨level', text', said'⟩ := Work.sayFailure_eq
        (((Work.start desk).setState key .viewing).render (.renderState key .viewing)) key other
      simp only [deliver, Work.finishSave, said, said']
      exact ⟨rfl, rfl⟩
  | remove key =>
      obtain ⟨level, text, said⟩ := (Work.start desk).sayFailure_eq key cause
      obtain ⟨level', text', said'⟩ := (Work.start desk).sayFailure_eq key other
      simp only [deliver, Work.finishDelete, said, said']
      exact ⟨rfl, rfl⟩
  | add index key value locked =>
      obtain ⟨level, text, said⟩ := (Work.start desk).sayFailure_eq key cause
      obtain ⟨level', text', said'⟩ := (Work.start desk).sayFailure_eq key other
      simp only [deliver, Work.finishAdd, said, said']
      cases locked <;> exact ⟨rfl, rfl⟩

namespace Session

theorem after_congr (session : Session) {progress other : Progress}
    (desk : progress.work.desk = other.work.desk) (events : progress.work.events = other.work.events)
    (answer : progress.answer = other.answer) :
    (session.after progress).1 = (session.after other).1 ∧
      (session.after progress).2.quiet = (session.after other).2.quiet := by
  unfold after
  rw [desk, events, answer]
  cases other.answer <;> exact ⟨rfl, rfl⟩

theorem step_sameButCause (session : Session) {command other : Step}
    (same : command.SameButCause other) :
    (session.step command).1 = (session.step other).1 ∧
      (session.step command).2.quiet = (session.step other).2.quiet := by
  cases same with
  | same => exact ⟨rfl, rfl⟩
  | failed ticket cause other =>
      simp only [step]
      cases session.inFlight.lookup ticket with
      | none => exact ⟨rfl, rfl⟩
      | some waiting =>
          obtain ⟨desk, events⟩ := session.desk.deliver_failed waiting cause other
          have answer := session.desk.deliver_answer waiting
          exact after_congr _ desk events ((answer (.failed cause)).trans (answer (.failed other)).symm)

theorem settle_sameButCause (session : Session) (report : Report) (ticket : Nat) {reply other : Reply}
    (kind : reply.kind = other.kind) (log log' : List LogLine) :
    (session.settle report ticket reply log).1 = (session.settle report ticket other log').1 ∧
      (session.settle report ticket reply log).2.quiet =
        (session.settle report ticket other log').2.quiet := by
  obtain ⟨next, more⟩ := session.step_sameButCause (Reply.sameButCause kind ticket)
  have answer := congrArg Report.answer more
  have events := congrArg Report.events more
  simp only [Report.quiet] at answer events
  simp only [settle, Report.quiet, next, answer, events, and_self]

theorem run_sameButCause (session : Session) {steps others : List Step}
    (same : List.Forall₂ Step.SameButCause steps others) :
    session.run steps = session.run others ∧
      (session.history steps).map (·.report.quiet) =
        (session.history others).map (·.report.quiet) := by
  induction same generalizing session with
  | nil => exact ⟨rfl, rfl⟩
  | cons one rest ih =>
      obtain ⟨next, report⟩ := session.step_sameButCause one
      obtain ⟨final, reports⟩ := ih (session.step _).1
      rw [next] at final reports
      constructor
      · rwa [run, run, next]
      · simp only [history, List.map_cons, recordOf, report]
        rw [next, reports]

end Session

/-! Bodies. -/

/-- The response without its body. -/
def Response.emptied (response : Response) : Response :=
  { response with body := [], isCut := false }

def Delivery.emptied : Delivery → Delivery
  | response r => response r.emptied
  | delivery => delivery

def Exchange.emptied (exchange : Exchange) : Exchange :=
  { exchange with delivery := exchange.delivery.emptied }

namespace Endpoint

def emptied (endpoint : Endpoint) : Endpoint :=
  { endpoint with
    script := endpoint.script.map Delivery.emptied
    exchanges := endpoint.exchanges.map Exchange.emptied }

theorem take_emptied (endpoint : Endpoint) (request : Request) :
    endpoint.emptied.take request =
      ((endpoint.take request).1.map Delivery.emptied, (endpoint.take request).2.emptied) := by
  obtain ⟨listening, script, exchanges⟩ := endpoint
  cases listening with
  | false => rfl
  | true =>
      cases script with
      | nil => simp [take, emptied, Exchange.emptied, fine, Delivery.emptied, Response.emptied]
      | cons delivery rest => simp [take, emptied, Exchange.emptied]

theorem sendWithin_emptied (limit : Nat) (request : Request) (endpoint : Endpoint) :
    sendWithin limit request endpoint.emptied =
      ((sendWithin limit request endpoint).1.map Response.emptied,
        (sendWithin limit request endpoint).2.emptied) := by
  -- Where a response leads depends on its status and its location only.
  have leads : ∀ request response, followUp? request (Response.emptied response) =
      followUp? request response := fun _ _ => rfl
  fun_induction sendWithin limit request endpoint with
  | case1 limit request endpoint after missed | case2 limit request endpoint after missed
  | case3 limit request endpoint after missed =>
      unfold sendWithin
      rw [take_emptied, missed]
      rfl
  | case4 limit request endpoint response after taken last =>
      unfold sendWithin
      simp only [take_emptied, taken, Option.map_some, Delivery.emptied, leads, last]
      rfl
  | case5 request endpoint response after taken next named =>
      unfold sendWithin
      simp only [take_emptied, taken, Option.map_some, Delivery.emptied, leads, named]
      rfl
  | case6 request endpoint response after taken next limit named onWeb ih =>
      rw [sendWithin]
      simp only [take_emptied, taken, Option.map_some, Delivery.emptied, leads, named, onWeb,
        ↓reduceIte, ih]
  | case7 request endpoint response after taken next limit named offWeb =>
      rw [sendWithin]
      simp only [take_emptied, taken, Option.map_some, Delivery.emptied, leads, named, offWeb,
        Bool.false_eq_true, ↓reduceIte]
      rfl

end Endpoint

namespace Client

/-- How a call goes on after an attempt: it has succeeded, or it failed and may be repeated. -/
def outlook : Ending → Option Bool
  | .ok () => none
  | .error cause => some cause.isRetryable

theorem ending_emptied (operation : Operation) (response : Response) :
    outlook (ending operation response.emptied) = outlook (ending operation response) := by
  unfold ending
  split
  · rename_i success
    have same : Status.isSuccess response.status := success
    rw [if_pos same]
  · rename_i failure
    have same : ¬ Status.isSuccess response.status := failure
    rw [if_neg same]
    rfl

/-- A failed attempt is repeated if it may be; else it is the last one. -/
theorem repeated_succ (operation : Operation) (retries : UInt32) (act : Endpoint → Attempt)
    (left : Nat) (number : UInt32) (endpoint : Endpoint) :
    let run := repeated operation retries act (left + 1) number endpoint
    let rest := repeated operation retries act left (number + 1) (act endpoint).endpoint
    (run.ending, run.endpoint) =
      if outlook (act endpoint).ending = some true then (rest.ending, rest.endpoint)
      else ((act endpoint).ending, (act endpoint).endpoint) := by
  simp only [repeated]
  cases ended : (act endpoint).ending with
  | ok => simp [outlook, Run.ofAttempt, ended]
  | error cause =>
      cases retries : cause.isRetryable <;> simp [outlook, Run.ofAttempt, Run.behind, retries, ended]

/-- The same ending, if the responses had had no bodies, and the same endpoint but for them. -/
def SameIfEmptied (ending : Ending) (after : Endpoint) (emptied : Ending × Endpoint) : Prop :=
  outlook emptied.1 = outlook ending ∧ emptied.2 = after.emptied

theorem attempt_emptied (operation : Operation) (address : String)
    (request : Except UrlProblem Request) (endpoint : Endpoint) :
    let one := attempt operation address request endpoint
    let other := attempt operation address request endpoint.emptied
    SameIfEmptied one.ending one.endpoint (other.ending, other.endpoint) := by
  cases request with
  | error problem => exact ⟨rfl, rfl⟩
  | ok request =>
      have sent := Endpoint.sendWithin_emptied Endpoint.redirectLimit request endpoint
      simp only [attempt, Endpoint.send, sent]
      rcases Endpoint.sendWithin Endpoint.redirectLimit request endpoint with ⟨fault | response, after⟩
      · exact ⟨rfl, rfl⟩
      · exact ⟨ending_emptied operation response, rfl⟩

theorem repeated_emptied {operation : Operation} {act : Endpoint → Attempt} (retries : UInt32)
    (same : ∀ endpoint, SameIfEmptied (act endpoint).ending (act endpoint).endpoint
      ((act endpoint.emptied).ending, (act endpoint.emptied).endpoint))
    (left : Nat) (number : UInt32) (endpoint : Endpoint) :
    let one := repeated operation retries act left number endpoint
    let other := repeated operation retries act left number endpoint.emptied
    SameIfEmptied one.ending one.endpoint (other.ending, other.endpoint) := by
  induction left generalizing number endpoint with
  | zero => exact same endpoint
  | succ left ih =>
      have one := repeated_succ operation retries act left number endpoint
      have other := repeated_succ operation retries act left number endpoint.emptied
      obtain ⟨outlooks, after⟩ := same endpoint
      simp only at one other outlooks after
      simp only [outlooks, after] at other
      simp only [other]
      split at one
      · rename_i repeats
        obtain ⟨ending, endpoint⟩ := Prod.mk.inj one
        simp only [ending, endpoint, repeats, ↓reduceIte]
        exact ih (number + 1) _
      · rename_i ends
        obtain ⟨ending, endpoint⟩ := Prod.mk.inj one
        simp only [ending, endpoint, ends, ↓reduceIte]
        exact ⟨outlooks, rfl⟩

theorem perform_emptied (config : EndpointConfig) (call : Call) (endpoint : Endpoint) :
    let one := perform config call endpoint
    let other := perform config call endpoint.emptied
    SameIfEmptied one.ending one.endpoint (other.ending, other.endpoint) := by
  simp only [perform, logged_ending, logged_endpoint]
  cases call.request config with
  | error problem =>
      exact attempt_emptied call.operation (config.address call.operation) (.error problem) endpoint
  | ok request =>
      exact repeated_emptied config.maxRetries
        (attempt_emptied call.operation (config.address call.operation) (.ok request))
        config.maxRetries.toNat 0 endpoint

theorem kind_of_outlook {run other : Run} (same : outlook run.ending = outlook other.ending) :
    run.reply.kind = other.reply.kind := by
  unfold Run.reply
  cases one : run.ending with
  | ok => 
      cases two : other.ending with
      | ok => rfl
      | error cause => simp [one, two, outlook] at same
  | error cause =>
      cases two : other.ending with
      | ok => simp [one, two, outlook] at same
      | error cause => rfl

/-- Endpoints that differ in bodies only answer a call in the same way, and differ in bodies only
afterwards. -/
theorem perform_sameButBodies (config : EndpointConfig) (call : Call) {endpoint other : Endpoint}
    (same : endpoint.emptied = other.emptied) :
    (perform config call endpoint).reply.kind = (perform config call other).reply.kind ∧
      (perform config call endpoint).endpoint.emptied =
        (perform config call other).endpoint.emptied := by
  obtain ⟨outlooks, after⟩ := perform_emptied config call endpoint
  obtain ⟨outlooks', after'⟩ := perform_emptied config call other
  rw [same] at outlooks after
  exact ⟨kind_of_outlook (outlooks.symm.trans outlooks'), after.symm.trans after'⟩

end Client

namespace OnlineSession

def run (online : OnlineSession) : List Step → OnlineSession × List Report
  | [] => (online, [])
  | command :: rest =>
      let (next, report) := online.step command
      let (final, reports) := next.run rest
      (final, report :: reports)

/-- The endpoints differ in the bodies of their responses, past and to come. -/
structure SameButBodies (one other : OnlineSession) : Prop where
  config : one.config = other.config
  session : one.session = other.session
  endpoint : one.endpoint.emptied = other.endpoint.emptied

theorem SameButBodies.step {one other : OnlineSession} (same : one.SameButBodies other)
    (command : Step) :
    (one.step command).1.SameButBodies (other.step command).1 ∧
      (one.step command).2.quiet = (other.step command).2.quiet := by
  obtain ⟨config, session, endpoint⟩ := one
  obtain ⟨_, _, endpoint'⟩ := other
  obtain ⟨rfl, rfl, bodies⟩ := same
  change endpoint.emptied = endpoint'.emptied at bodies
  simp only [OnlineSession.step]
  split
  · rename_i ticket call _ _
    obtain ⟨kind, after⟩ := Client.perform_sameButBodies config call bodies
    have settled := (session.step command).1.settle_sameButCause (session.step command).2 ticket kind
      (Client.perform config call endpoint).log (Client.perform config call endpoint').log
    refine ⟨⟨rfl, settled.1, ?_⟩, settled.2⟩
    simpa only using after
  · exact ⟨⟨rfl, rfl, bodies⟩, rfl⟩

theorem SameButBodies.run {one other : OnlineSession} (same : one.SameButBodies other)
    (steps : List Step) :
    (one.run steps).1.SameButBodies (other.run steps).1 ∧
      (one.run steps).2.map Report.quiet = (other.run steps).2.map Report.quiet := by
  induction steps generalizing one other with
  | nil => exact ⟨same, rfl⟩
  | cons command rest ih =>
      obtain ⟨next, report⟩ := same.step command
      obtain ⟨final, reports⟩ := ih next
      exact ⟨final, by simp only [OnlineSession.run, List.map_cons, report, reports]⟩

end OnlineSession

/-- The requests that have arrived, in their order. -/
def Endpoint.requests (endpoint : Endpoint) : List Request :=
  endpoint.exchanges.map Exchange.request

theorem Endpoint.requests_congr {endpoint other : Endpoint}
    (same : endpoint.emptied = other.emptied) : endpoint.requests = other.requests := by
  have exchanges := congrArg Endpoint.requests same
  simpa only [requests, emptied, List.map_map, Function.comp_def, Exchange.emptied] using exchanges

namespace Traffic

structure SameButBodies (one other : Traffic) : Prop where
  config : one.config = other.config
  session : one.session = other.session
  endpoint : one.endpoint.emptied = other.endpoint.emptied
  heard : ∀ ticket, (one.heard ticket).map Delivery.emptied = (other.heard ticket).map Delivery.emptied
  reports : one.reports.map Report.quiet = other.reports.map Report.quiet

namespace SameButBodies

variable {one other : Traffic} (same : one.SameButBodies other)
include same

theorem replay (ticket : Nat) (call : Call) :
    (one.replay ticket call).reply.kind = (other.replay ticket call).reply.kind ∧
      (one.replay ticket call).endpoint.requests = (other.replay ticket call).endpoint.requests := by
  have listening := congrArg Endpoint.isListening same.endpoint
  have start : Endpoint.emptied ⟨one.endpoint.isListening, one.heard ticket, []⟩ =
      Endpoint.emptied ⟨other.endpoint.isListening, other.heard ticket, []⟩ := by
    simp only [Endpoint.emptied] at listening ⊢
    rw [listening, same.heard]
  obtain ⟨kind, after⟩ := Client.perform_sameButBodies one.config call start
  unfold Traffic.replay
  rw [← same.config]
  exact ⟨kind, Endpoint.requests_congr after⟩

theorem request? (ticket : Nat) (call : Call) :
    one.request? ticket call = other.request? ticket call := by
  have length : (one.heard ticket).length = (other.heard ticket).length := by
    simpa using congrArg List.length (same.heard ticket)
  have requests := (same.replay ticket call).2
  simp only [Traffic.request?, ← List.getElem?_map, length]
  simp only [Endpoint.requests] at requests
  rw [requests]

theorem tell {command command' : Step} (commands : command.SameButCause command') :
    (one.tell command).SameButBodies (other.tell command') := by
  obtain ⟨next, report⟩ := one.session.step_sameButCause commands
  rw [same.session] at next report
  constructor
  · exact same.config
  · simp only [Traffic.tell, same.session, next]
  · exact same.endpoint
  · exact same.heard
  · simp only [Traffic.tell, List.map_append, List.map_cons, List.map_nil, same.reports,
      same.session, report]

theorem arrive (ticket : Nat) (request : Request) :
    (one.arrive ticket request).SameButBodies (other.arrive ticket request) := by
  have took := one.endpoint.take_emptied request
  rw [same.endpoint, other.endpoint.take_emptied request] at took
  obtain ⟨delivered, after⟩ := Prod.mk.inj took
  unfold Traffic.arrive
  cases one : (one.endpoint.take request).1 with
  | none =>
      cases other : (other.endpoint.take request).1 with
      | none => exact same
      | some delivery => simp [one, other] at delivered
  | some delivery =>
      cases other : (other.endpoint.take request).1 with
      | none => simp [one, other] at delivered
      | some delivery' =>
          have bodies : delivery'.emptied = delivery.emptied := by simpa [one, other] using delivered
          refine ⟨same.config, same.session, after.symm, fun place => ?_, same.reports⟩
          simp only [Function.update_apply]
          split
          · simp [same.heard, bodies]
          · exact same.heard place

theorem turn (turn : Turn) : (one.turn turn).SameButBodies (other.turn turn) := by
  cases turn with
  | user command =>
      cases command with
      | deliver => exact same
      | row | openDialog | closeDialog | add | onScreen | look => exact same.tell (.same _)
  | send ticket =>
      simp only [Traffic.turn, ← same.session, ← same.request?]
      split
      · exact same
      · split
        · exact same
        · exact same.arrive ticket _
  | hear ticket =>
      simp only [Traffic.turn, ← same.session, ← same.request?]
      split
      · exact same
      · split
        · exact same
        · exact same.tell (Reply.sameButCause (same.replay ticket _).1 ticket)

theorem run (turns : List Turn) : (one.run turns).SameButBodies (other.run turns) := by
  induction turns generalizing one other with
  | nil => exact same
  | cons turn rest ih => exact ih (same.turn turn)

end SameButBodies
end Traffic

/-- Why requests failed changes the log of a session only. Two scripts that differ only in bodies lead to
the same requests, the same reports but for their logs, and the same session, whether calls are made one
at a time or together. -/
theorem causes_and_bodies_unseen :
    (∀ (session : Session) (steps others : List Step),
      List.Forall₂ Step.SameButCause steps others →
      session.run steps = session.run others ∧
        (session.history steps).map (·.report.quiet) =
          (session.history others).map (·.report.quiet)) ∧
    ∀ (config : EndpointConfig) (session : Session) (endpoint other : Endpoint),
      endpoint.emptied = other.emptied →
      (∀ steps : List Step,
        let one := OnlineSession.run ⟨config, session, endpoint⟩ steps
        let two := OnlineSession.run ⟨config, session, other⟩ steps
        one.1.session = two.1.session ∧ one.2.map Report.quiet = two.2.map Report.quiet ∧
          one.1.endpoint.requests = two.1.endpoint.requests) ∧
      ∀ turns : List Traffic.Turn,
        let one := (Traffic.opening config session endpoint).run turns
        let two := (Traffic.opening config session other).run turns
        one.session = two.session ∧ one.reports.map Report.quiet = two.reports.map Report.quiet ∧
          one.endpoint.requests = two.endpoint.requests := by
  refine ⟨fun session _ _ => session.run_sameButCause, fun config session endpoint other bodies => ?_⟩
  constructor
  · intro steps
    have start : OnlineSession.SameButBodies ⟨config, session, endpoint⟩ ⟨config, session, other⟩ :=
      ⟨rfl, rfl, bodies⟩
    obtain ⟨final, reports⟩ := start.run steps
    exact ⟨final.session, reports, Endpoint.requests_congr final.endpoint⟩
  · intro turns
    have start : (Traffic.opening config session endpoint).SameButBodies
        (Traffic.opening config session other) := ⟨rfl, rfl, bodies, fun _ => rfl, rfl⟩
    have final := start.run turns
    exact ⟨final.session, final.reports, Endpoint.requests_congr final.endpoint⟩

/-- A gateway's error with a body that is no text, and one that breaks off, look alike. -/
theorem broken_bodies_unseen :
    let one : Endpoint := ⟨true, [.response ⟨502, [0xFF, 0x61], false, none⟩, .closed], []⟩
    let other : Endpoint := ⟨true, [.response ⟨502, [0x61], true, none⟩, .closed], []⟩
    let config := EndpointConfig.ofBase "http://[::1]" "CAT"
    let steps : List Step := [.row "k" .edit, .row "k" (.save "v")]
    let session := Session.ofMessages [("k", "u")] 1
    one.emptied = other.emptied ∧
      (OnlineSession.run ⟨config, session, one⟩ steps).1.session =
        (OnlineSession.run ⟨config, session, other⟩ steps).1.session ∧
      session.run [.row "k" .edit, .row "k" (.save "v"),
          .deliver 1 (.failed (.answered "save" 502 none))] =
        session.run [.row "k" .edit, .row "k" (.save "v"),
          .deliver 1 (.failed (.answered "save" 502 (some "a")))] := by
  intro one other config steps session
  have bodies : one.emptied = other.emptied := by decide +kernel
  obtain ⟨causes, scripts⟩ := causes_and_bodies_unseen
  refine ⟨bodies, ((scripts config session one other bodies).1 steps).1, ?_⟩
  exact (causes session _ _ (.cons (.same _) (.cons (.same _) (.cons (.failed ..) .nil)))).1

end CatalogueEditor
