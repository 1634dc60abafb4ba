import CatalogueEditor.Proofs.Indifference
import CatalogueEditor.Proofs.RunHistory
import CatalogueEditor.Proofs.SessionRun

/-!
A call is an inquiry: which request it sends next, if any, depends only on what was delivered for those
before. So a call in traffic that is not interrupted goes as it does by itself, and whatever an online
session does can happen in traffic.
-/

namespace CatalogueEditor

/-- What is asked of an endpoint, and what comes of it. -/
inductive Inquiry (α : Type)
  | done (result : α)
  | ask (request : Request) (next : Option Delivery → Inquiry α)

namespace Inquiry

variable {α β : Type}

def play : Inquiry α → Endpoint → α × Endpoint
  | done result, endpoint => (result, endpoint)
  | ask request next, endpoint =>
      (next (endpoint.take request).1).play (endpoint.take request).2

def bind : Inquiry α → (α → Inquiry β) → Inquiry β
  | done result, more => more result
  | ask request next, more => ask request fun delivery => (next delivery).bind more

/-- How the inquiry goes on after these deliveries. -/
def after : Inquiry α → List Delivery → Inquiry α
  | inquiry, [] => inquiry
  | done result, _ :: _ => done result
  | ask _ next, delivery :: rest => (next (some delivery)).after rest

def request? : Inquiry α → Option Request
  | done _ => none
  | ask request _ => some request

theorem play_bind (inquiry : Inquiry α) (more : α → Inquiry β) (endpoint : Endpoint) :
    (inquiry.bind more).play endpoint = (more (inquiry.play endpoint).1).play (inquiry.play endpoint).2 := by
  induction inquiry generalizing endpoint with
  | done result => rfl
  | ask request next ih => exact ih _ _

@[simp] theorem after_nil (inquiry : Inquiry α) : inquiry.after [] = inquiry := by
  cases inquiry <;> rfl

theorem after_concat (inquiry : Inquiry α) (deliveries : List Delivery) (last : Delivery) :
    inquiry.after (deliveries ++ [last]) = (inquiry.after deliveries).after [last] := by
  induction deliveries generalizing inquiry with
  | nil => rw [List.nil_append, after_nil]
  | cons first rest ih =>
      cases inquiry with
      | done result => cases rest <;> rfl
      | ask request next => exact ih _

theorem play_deaf (inquiry : Inquiry α) {endpoint other : Endpoint} (deaf : endpoint.isListening = false)
    (deaf' : other.isListening = false) :
    (inquiry.play endpoint).1 = (inquiry.play other).1 ∧ (inquiry.play endpoint).2 = endpoint := by
  have missed : ∀ request, endpoint.take request = (none, endpoint) := by simp [Endpoint.take, deaf]
  have missed' : ∀ request, other.take request = (none, other) := by simp [Endpoint.take, deaf']
  induction inquiry with
  | done result => exact ⟨rfl, rfl⟩
  | ask request next ih =>
      simp only [play, missed, missed']
      exact ih none

theorem play_exchanges (inquiry : Inquiry α) (endpoint : Endpoint) :
    ∃ made, (inquiry.play endpoint).2.exchanges = endpoint.exchanges ++ made := by
  induction inquiry generalizing endpoint with
  | done result => exact ⟨[], (List.append_nil _).symm⟩
  | ask request next ih =>
      cases taken : endpoint.take request with
      | mk delivered after =>
          obtain ⟨made, exchanges⟩ := ih delivered after
          simp only [play, taken]
          cases delivered with
          | none => exact ⟨made, Endpoint.take_unreachable taken ▸ exchanges⟩
          | some delivery =>
              refine ⟨⟨request, delivery⟩ :: made, ?_⟩
              rw [exchanges, Endpoint.take_exchanges taken, List.append_assoc]
              rfl

/-- Played against what was delivered so far, an inquiry comes to the request that it goes on with. -/
theorem request?_play (inquiry : Inquiry α) (deliveries : List Delivery) (before : List Exchange) :
    ((inquiry.play ⟨true, deliveries, before⟩).2.exchanges[before.length + deliveries.length]?).map
        Exchange.request =
      (inquiry.after deliveries).request? := by
  induction inquiry generalizing deliveries before with
  | done result =>
      have beyond : before.length ≤ before.length + deliveries.length := Nat.le_add_right _ _
      simp only [play, List.getElem?_eq_none beyond]
      cases deliveries <;> rfl
  | ask request next ih =>
      cases deliveries with
      | nil =>
          obtain ⟨made, exchanges⟩ :=
            (next (some Endpoint.fine)).play_exchanges ⟨true, [], before ++ [⟨request, Endpoint.fine⟩]⟩
          have taken : Endpoint.take ⟨true, [], before⟩ request =
              (some Endpoint.fine, ⟨true, [], before ++ [⟨request, Endpoint.fine⟩]⟩) := rfl
          simp only [play, taken, exchanges]
          simp [after, request?]
      | cons delivery rest =>
          have later := ih (some delivery) rest (before ++ [⟨request, delivery⟩])
          have taken : Endpoint.take ⟨true, delivery :: rest, before⟩ request =
              (some delivery, ⟨true, rest, before ++ [⟨request, delivery⟩]⟩) := rfl
          rw [List.length_append, List.length_singleton, Nat.add_assoc, Nat.add_comm 1] at later
          simp only [play, taken]
          exact later

theorem play_after {inquiry : Inquiry α} {deliveries : List Delivery} {result : α}
    (ended : inquiry.after deliveries = done result) (before : List Exchange) :
    (inquiry.play ⟨true, deliveries, before⟩).1 = result := by
  induction inquiry generalizing deliveries before with
  | done other =>
      cases deliveries <;> cases ended <;> rfl
  | ask request next ih =>
      cases deliveries with
      | nil => cases ended
      | cons delivery rest => exact ih (some delivery) ended (before ++ [⟨request, delivery⟩])

end Inquiry

/-! Calls. -/

theorem Endpoint.take_listening {endpoint : Endpoint} (request : Request)
    (listening : endpoint.isListening = true) :
    ∃ delivery after, endpoint.take request = (some delivery, after) ∧ after.isListening = true := by
  unfold take
  rw [if_pos listening]
  exact ⟨_, _, rfl, listening⟩

/-- A request, and what follows its response. -/
def Inquiry.send (request : Request) (further : Response → Inquiry (Except Fault Response)) :
    Inquiry (Except Fault Response) :=
  .ask request fun
    | none => .done (.error .unreachable)
    | some .closed => .done (.error .closed)
    | some .silent => .done (.error .silent)
    | some (.response response) => further response

theorem Endpoint.sendWithin_play {limit : Nat} {request : Request}
    {further : Response → Inquiry (Except Fault Response)}
    (goesOn : ∀ endpoint response after, endpoint.take request = (some (.response response), after) →
      sendWithin limit request endpoint = (further response).play after) (endpoint : Endpoint) :
    sendWithin limit request endpoint = (Inquiry.send request further).play endpoint := by
  rcases taken : endpoint.take request with ⟨_ | response | _ | _, after⟩
  · unfold sendWithin
    simp only [Inquiry.send, Inquiry.play, taken]
  · simp only [Inquiry.send, Inquiry.play, taken, goesOn endpoint response after taken]
  · unfold sendWithin
    simp only [Inquiry.send, Inquiry.play, taken]
  · unfold sendWithin
    simp only [Inquiry.send, Inquiry.play, taken]

theorem Endpoint.sendWithin_inquiry (limit : Nat) (request : Request) :
    ∃ inquiry : Inquiry (Except Fault Response), ∀ endpoint,
      sendWithin limit request endpoint = inquiry.play endpoint := by
  induction limit generalizing request with
  | zero =>
      refine ⟨.send request fun response =>
        if (followUp? request response).isNone then .done (.ok response)
        else .done (.error .tooManyRedirects), sendWithin_play fun endpoint response after taken => ?_⟩
      unfold sendWithin
      simp only [taken]
      cases followUp? request response <;> rfl
  | succ limit ih =>
      choose later plays using ih
      refine ⟨.send request fun response =>
        (followUp? request response).elim (.done (.ok response)) fun next =>
          if EndpointConfig.schemes.contains next.url.scheme then later next
          else .done (.error .badAddress), sendWithin_play fun endpoint response after taken => ?_⟩
      unfold sendWithin
      simp only [taken]
      cases followUp? request response with
      | none => rfl
      | some next =>
          simp only [Option.elim_some]
          split
          · exact plays next after
          · rfl

namespace Client

/-- How an attempt ends when this has come of its request. -/
def concluded (operation : Operation) : Except Fault Response → Ending
  | .error fault => .error (ofFault operation fault)
  | .ok response => ending operation response

theorem attempt_inquiry (operation : Operation) (address : String)
    (request : Except UrlProblem Request) :
    ∃ inquiry : Inquiry Ending, ∀ endpoint,
      ((attempt operation address request endpoint).ending,
        (attempt operation address request endpoint).endpoint) = inquiry.play endpoint := by
  cases request with
  | error problem => exact ⟨.done _, fun endpoint => rfl⟩
  | ok request =>
      obtain ⟨inquiry, plays⟩ := Endpoint.sendWithin_inquiry Endpoint.redirectLimit request
      refine ⟨inquiry.bind fun result => .done (concluded operation result), fun endpoint => ?_⟩
      rw [Inquiry.play_bind, ← plays]
      simp only [attempt, Endpoint.send]
      rcases Endpoint.sendWithin Endpoint.redirectLimit request endpoint with ⟨_ | _, after⟩ <;> rfl

theorem repeated_inquiry {operation : Operation} {act : Endpoint → Attempt} (retries : UInt32)
    {once : Inquiry Ending}
    (plays : ∀ endpoint, ((act endpoint).ending, (act endpoint).endpoint) = once.play endpoint)
    (left : Nat) (number : UInt32) :
    ∃ inquiry : Inquiry Ending, ∀ endpoint,
      ((repeated operation retries act left number endpoint).ending,
        (repeated operation retries act left number endpoint).endpoint) = inquiry.play endpoint := by
  induction left generalizing number with
  | zero => exact ⟨once, plays⟩
  | succ left ih =>
      obtain ⟨again, goesOn⟩ := ih (number + 1)
      refine ⟨once.bind fun ending => if outlook ending = some true then again else .done ending,
        fun endpoint => ?_⟩
      refine (repeated_succ operation retries act left number endpoint).trans ?_
      rw [Inquiry.play_bind, ← plays, goesOn]
      split <;> rfl

/-- The call is the inquiry. -/
structure Asks (config : EndpointConfig) (call : Call) (inquiry : Inquiry Ending) : Prop where
  ending (endpoint : Endpoint) :
    (perform config call endpoint).ending = (inquiry.play endpoint).1
  endpoint (endpoint : Endpoint) :
    (perform config call endpoint).endpoint = (inquiry.play endpoint).2

theorem exists_asks (config : EndpointConfig) (call : Call) : ∃ inquiry, Asks config call inquiry := by
  suffices ∃ inquiry : Inquiry Ending, ∀ endpoint, ((perform config call endpoint).ending,
      (perform config call endpoint).endpoint) = inquiry.play endpoint by
    obtain ⟨inquiry, plays⟩ := this
    exact ⟨inquiry, fun endpoint => by rw [← plays], fun endpoint => by rw [← plays]⟩
  simp only [perform, logged_ending, logged_endpoint]
  cases call.request config with
  | error problem =>
      exact attempt_inquiry call.operation (config.address call.operation) (.error problem)
  | ok request =>
      obtain ⟨once, plays⟩ :=
        attempt_inquiry call.operation (config.address call.operation) (.ok request)
      exact repeated_inquiry config.maxRetries plays config.maxRetries.toNat 0

theorem Run.reply_congr {run other : Run} (same : run.ending = other.ending) :
    run.reply = other.reply := by
  unfold Run.reply
  rw [same]

end Client

namespace Traffic

/-- Of the call of the ticket nothing is left but its reply, and nothing has happened to others. -/
structure Concludes (traffic later : Traffic) (ticket : Nat) (call : Call) (ending : Ending)
    (endpoint : Endpoint) : Prop where
  config : later.config = traffic.config
  session : later.session = traffic.session
  endpoint : later.endpoint = endpoint
  ended : later.request? ticket call = none
  ending : (later.replay ticket call).ending = ending
  others : ∀ other, other ≠ ticket → later.heard other = traffic.heard other

variable {traffic : Traffic} {ticket : Nat} {call : Call} {waiting : Waiting}

section Asking
variable {inquiry : Inquiry Ending}

theorem request?_eq (asks : Client.Asks traffic.config call inquiry)
    (listening : traffic.endpoint.isListening = true) :
    traffic.request? ticket call = (inquiry.after (traffic.heard ticket)).request? := by
  have next := inquiry.request?_play (traffic.heard ticket) []
  rw [List.length_nil, Nat.zero_add] at next
  rw [Traffic.request?, replay, listening, asks.endpoint, next]

theorem conclude_listening (asks : Client.Asks traffic.config waiting.call inquiry)
    (found : traffic.session.inFlight.lookup ticket = some waiting)
    (listening : traffic.endpoint.isListening = true) (rest : Inquiry Ending)
    (goesOn : inquiry.after (traffic.heard ticket) = rest) :
    ∃ turns, traffic.Concludes (traffic.run turns) ticket waiting.call (rest.play traffic.endpoint).1
      (rest.play traffic.endpoint).2 := by
  induction rest generalizing traffic with
  | done ending =>
      refine ⟨[], rfl, rfl, rfl, ?_, ?_, fun _ _ => rfl⟩
      · exact (request?_eq asks listening).trans (congrArg Inquiry.request? goesOn)
      · rw [run, replay, listening, asks.ending]
        exact Inquiry.play_after goesOn []
  | ask request next ih =>
      have sends : traffic.request? ticket waiting.call = some request :=
        (request?_eq asks listening).trans (congrArg Inquiry.request? goesOn)
      -- The request goes out, and what follows its delivery is left of the inquiry.
      obtain ⟨delivery, after, taken, hears⟩ := Endpoint.take_listening request listening
      have sent : traffic.turn (.send ticket) =
          { traffic with
            endpoint := after
            heard := Function.update traffic.heard ticket (traffic.heard ticket ++ [delivery]) } := by
        simp only [Traffic.turn, found, sends, arrive, taken]
      generalize turned : traffic.turn (.send ticket) = later at sent
      have config : later.config = traffic.config := by rw [sent]
      have session : later.session = traffic.session := by rw [sent]
      have endpoint : later.endpoint = after := by rw [sent]
      have heard : later.heard =
          Function.update traffic.heard ticket (traffic.heard ticket ++ [delivery]) := by rw [sent]
      have goesOn' : inquiry.after (later.heard ticket) = next (some delivery) := by
        rw [heard, Function.update_self, Inquiry.after_concat, goesOn]
        exact Inquiry.after_nil _
      obtain ⟨turns, concludes⟩ :=
        ih (some delivery) (config ▸ asks) (session ▸ found) (endpoint ▸ hears) goesOn'
      refine ⟨.send ticket :: turns, ?_⟩
      rw [run, turned, Inquiry.play, taken]
      rw [endpoint] at concludes
      refine ⟨?_, ?_, concludes.endpoint, concludes.ended, concludes.ending, fun other apart => ?_⟩
      · exact concludes.config.trans config
      · exact concludes.session.trans session
      · rw [concludes.others other apart, heard, Function.update_of_ne apart]

theorem conclude_deaf (asks : Client.Asks traffic.config call inquiry)
    (deaf : traffic.endpoint.isListening = false) :
    traffic.Concludes traffic ticket call (inquiry.play traffic.endpoint).1
      (inquiry.play traffic.endpoint).2 := by
  obtain ⟨same, untouched⟩ := inquiry.play_deaf deaf deaf
  have still : Endpoint.isListening ⟨false, traffic.heard ticket, []⟩ = false := rfl
  obtain ⟨alike, nothing⟩ := inquiry.play_deaf still deaf
  refine ⟨rfl, rfl, untouched.symm, ?_, ?_, fun _ _ => rfl⟩
  · rw [Traffic.request?, replay, deaf, asks.endpoint, nothing]
    rfl
  · rw [replay, deaf, asks.ending, alike]

end Asking

/-- The requests of a call that has just been issued may be made at once, and end it as they do by
themselves. -/
theorem exists_concludes (found : traffic.session.inFlight.lookup ticket = some waiting)
    (fresh : traffic.heard ticket = []) :
    let alone := Client.perform traffic.config waiting.call traffic.endpoint
    ∃ turns, traffic.Concludes (traffic.run turns) ticket waiting.call alone.ending
      alone.endpoint := by
  obtain ⟨inquiry, asks⟩ := Client.exists_asks traffic.config waiting.call
  simp only [asks.ending, asks.endpoint]
  cases listening : traffic.endpoint.isListening with
  | false => exact ⟨[], conclude_deaf asks listening⟩
  | true => exact conclude_listening asks found listening inquiry (by rw [fresh, Inquiry.after_nil])

/-- Then its reply is that of the call by itself. -/
theorem exists_heard (found : traffic.session.inFlight.lookup ticket = some waiting)
    (fresh : traffic.heard ticket = []) :
    let alone := Client.perform traffic.config waiting.call traffic.endpoint
    ∃ turns, let later := traffic.run turns
      later.config = traffic.config ∧
      later.session = (traffic.session.step (.deliver ticket alone.reply)).1 ∧
      later.endpoint = alone.endpoint ∧
      ∀ other, other ≠ ticket → later.heard other = traffic.heard other := by
  intro alone
  obtain ⟨turns, concludes⟩ := exists_concludes found fresh
  refine ⟨turns ++ [.hear ticket], ?_⟩
  rw [run_append]
  have awaited : (traffic.run turns).session.inFlight.lookup ticket = some waiting := by
    rw [concludes.session, found]
  have heard : (traffic.run turns).run [.hear ticket] =
      (traffic.run turns).tell (.deliver ticket alone.reply) := by
    simp only [run, turn, awaited, concludes.ended]
    rw [Client.Run.reply_congr concludes.ending]
  rw [heard]
  refine ⟨concludes.config, ?_, concludes.endpoint, concludes.others⟩
  rw [tell, concludes.session]

end Traffic

/-! Online sessions. -/

namespace Session

/-- Whatever the clock shows, what was done ends at once, or leaves the one call that it issued. -/
def EndsOrCalls (act : Nat → Session × Report) : Prop :=
  (∃ next report, report.call = none ∧ ∀ clock, act clock = (⟨next, [], clock + 1⟩, report)) ∨
  ∃ next waiting events log, ∀ clock, act clock =
    (⟨next, [(clock, waiting)], clock + 1⟩, ⟨.inFlight clock, some waiting.call, events, log⟩)

theorem after_of_idle (desk : Desk) (progress : Progress) :
    EndsOrCalls fun clock => (⟨desk, [], clock⟩ : Session).after progress := by
  unfold after
  cases progress.answer with
  | outcome | done | refused => exact .inl ⟨_, _, rfl, fun _ => rfl⟩
  | waits waiting => exact .inr ⟨_, waiting, _, _, fun _ => rfl⟩

theorem withDialog_of_idle (desk : Desk) (index : Nat) (act : Dialog → Progress) :
    EndsOrCalls fun clock => (⟨desk, [], clock⟩ : Session).withDialog index act := by
  simp only [withDialog]
  cases desk.dialogs[index]? with
  | none => exact .inl ⟨_, _, rfl, fun _ => rfl⟩
  | some dialog => exact after_of_idle desk (act dialog)

theorem step_of_idle (desk : Desk) {command : Step}
    (own : ∀ ticket reply, command ≠ .deliver ticket reply) :
    EndsOrCalls fun clock => (⟨desk, [], clock⟩ : Session).step command := by
  cases command with
  | row key action => exact after_of_idle desk (desk.dispatch key action)
  | openDialog index => exact withDialog_of_idle desk index (desk.openDialog index)
  | closeDialog index => exact withDialog_of_idle desk index (desk.closeDialog index)
  | add index key value =>
      exact withDialog_of_idle desk index fun dialog => desk.requestAdd index dialog key value
  | deliver ticket reply => exact absurd rfl (own ticket reply)
  | onScreen event =>
      let work := (Work.start desk).render event
      exact .inl ⟨work.desk, ⟨.done, none, [], work.log⟩, rfl, fun _ => rfl⟩
  | look => exact .inl ⟨desk, ⟨.done, none, [], []⟩, rfl, fun _ => rfl⟩

theorem step_of_reply (desk : Desk) (ticket clock : Nat) (waiting : Waiting) (reply : Reply) :
    ((⟨desk, [(ticket, waiting)], clock⟩ : Session).step (.deliver ticket reply)).1 =
      ⟨(desk.deliver waiting reply).work.desk, [], clock + 1⟩ := by
  have answer := desk.deliver_answer waiting reply
  simp [step, after, answer]

end Session

namespace OnlineSession

theorem step_silent {online : OnlineSession} {command : Step} {next : Session} {report : Report}
    (steps : online.session.step command = (next, report)) (silent : report.call = none) :
    (online.step command).1 = { online with session := next } := by
  unfold OnlineSession.step
  rw [steps]
  dsimp only
  split
  · rename_i called
    cases silent.symm.trans called
  · rfl

theorem step_called {online : OnlineSession} {command : Step} {next : Session} {ticket : Nat}
    {call : Call} {events : List Event} {log : List LogLine}
    (steps : online.session.step command = (next, ⟨.inFlight ticket, some call, events, log⟩)) :
    let alone := Client.perform online.config call online.endpoint
    (online.step command).1 =
      { online with
        session := { (next.step (.deliver ticket alone.reply)).1 with clock := next.clock }
        endpoint := alone.endpoint } := by
  unfold OnlineSession.step
  rw [steps]
  rfl

/-- Traffic in which no call is in flight, where the online session is. Their clocks may differ, as a
reply takes a step of its own in traffic. -/
structure Meets (online : OnlineSession) (traffic : Traffic) : Prop where
  config : traffic.config = online.config
  desk : traffic.session.desk = online.session.desk
  idle : online.session.inFlight = []
  quiet : traffic.session.inFlight = []
  endpoint : traffic.endpoint = online.endpoint
  fresh : ∀ ticket, traffic.session.clock ≤ ticket → traffic.heard ticket = []

theorem Meets.step_own {online : OnlineSession} {traffic : Traffic} (meets : online.Meets traffic)
    {command : Step} (own : ∀ ticket reply, command ≠ .deliver ticket reply) :
    ∃ turns, (online.step command).1.Meets (traffic.run turns) := by
  obtain ⟨_, ⟨_, _, clock⟩, _⟩ := online
  obtain ⟨config, ⟨desk, _, clock'⟩, endpoint, heard, reports⟩ := traffic
  obtain ⟨rfl, rfl, rfl, rfl, rfl, fresh⟩ := meets
  dsimp only at fresh ⊢
  rcases Session.step_of_idle desk own with
    ⟨next, report, silent, ends⟩ | ⟨next, waiting, events, log, calls⟩
  · dsimp only at ends
    refine ⟨[.user command], ?_⟩
    rw [step_silent (ends clock) silent, Traffic.run, Traffic.run, Traffic.turn_user _ own]
    simp only [Traffic.tell, ends]
    refine ⟨rfl, rfl, rfl, rfl, rfl, fun ticket later => fresh ticket ?_⟩
    exact Nat.le_of_succ_le later
  · dsimp only at calls
    have issued : Traffic.turn ⟨config, ⟨desk, [], clock'⟩, endpoint, heard, reports⟩ (.user command) =
        ⟨config, ⟨next, [(clock', waiting)], clock' + 1⟩, endpoint, heard,
          reports ++ [⟨.inFlight clock', some waiting.call, events, log⟩]⟩ := by
      rw [Traffic.turn_user _ own]
      simp only [Traffic.tell, calls]
    generalize turned : Traffic.turn _ (.user command) = traffic at issued
    have same : traffic.config = config ∧ traffic.endpoint = endpoint ∧ traffic.heard = heard ∧
        traffic.session = ⟨next, [(clock', waiting)], clock' + 1⟩ := by
      rw [issued]
      exact ⟨rfl, rfl, rfl, rfl⟩
    obtain ⟨rfl, rfl, rfl, session⟩ := same
    have found : traffic.session.inFlight.lookup clock' = some waiting := by simp [session]
    obtain ⟨turns, config, later, after, others⟩ :=
      Traffic.exists_heard found (fresh clock' (Nat.le_refl _))
    rw [session, Session.step_of_reply] at later
    refine ⟨.user command :: turns, ?_⟩
    rw [step_called (calls clock), Traffic.run, turned]
    simp only [Session.step_of_reply]
    constructor
    · exact config
    · rw [later]
    · rfl
    · rw [later]
    · rw [after]
    · intro ticket behind
      rw [later] at behind
      dsimp only at behind
      rw [others ticket (by omega)]
      exact fresh ticket (by omega)

theorem Meets.step {online : OnlineSession} {traffic : Traffic} (meets : online.Meets traffic)
    (command : Step) : ∃ turns, (online.step command).1.Meets (traffic.run turns) := by
  cases command with
  | row | openDialog | closeDialog | add | onScreen | look => exact meets.step_own (by simp)
  | deliver ticket reply =>
      have steps : online.session.step (.deliver ticket reply) =
          online.session.idle .nothingInFlight := by
        simp only [Session.step, meets.idle, List.lookup_nil]
      refine ⟨[], ?_⟩
      rw [step_silent steps rfl]
      exact ⟨meets.config, meets.desk, meets.idle, meets.quiet, meets.endpoint, meets.fresh⟩

theorem Meets.run {online : OnlineSession} {traffic : Traffic} (meets : online.Meets traffic)
    (steps : List Step) : ∃ turns, (online.run steps).1.Meets (traffic.run turns) := by
  induction steps generalizing online traffic with
  | nil => exact ⟨[], meets⟩
  | cons command rest ih =>
      obtain ⟨turns, next⟩ := meets.step command
      obtain ⟨more, final⟩ := ih next
      exact ⟨turns ++ more, Traffic.run_append traffic turns more ▸ final⟩

/-- Whatever an online session does, traffic does in some order of its turns. -/
theorem exists_traffic (config : EndpointConfig) (messages : List (String × String)) (dialogs : Nat)
    (endpoint : Endpoint) (steps : List Step) :
    let session := Session.ofMessages messages dialogs
    let online := (OnlineSession.run ⟨config, session, endpoint⟩ steps).1
    ∃ turns, let traffic := (Traffic.opening config session endpoint).run turns
      traffic.session.desk = online.session.desk ∧ traffic.session.inFlight = [] ∧
        traffic.endpoint = online.endpoint := by
  intro session online
  have start : Meets ⟨config, session, endpoint⟩ (Traffic.opening config session endpoint) :=
    ⟨rfl, rfl, rfl, rfl, rfl, fun _ _ => rfl⟩
  obtain ⟨turns, meets⟩ := start.run steps
  exact ⟨turns, meets.desk, meets.quiet, meets.endpoint⟩

end OnlineSession

end CatalogueEditor
