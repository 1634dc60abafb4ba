import CatalogueEditor.Proofs.EditorOpening
import CatalogueEditor.Proofs.FormDelivery
import CatalogueEditor.Proofs.FormRoundTrip
import CatalogueEditor.Proofs.RunHistory
import CatalogueEditor.Proofs.Traffic

/-!
What an editor posts. Whatever comes back for a request, each post carries the form of the call that it
is made for, and the form has the fields of the operation that issued the call, for the catalogue that
the URL of the page names.
-/

namespace CatalogueEditor

/-- The fields of the form that a request posts, decoded. -/
def Request.form (request : Request) : List (String × String) :=
  (Form.read request.body).map fun field => (String.ofList field.1, String.ofList field.2)

/-- The form of the operation that a step starts, if it needs the endpoint. -/
def Step.form? (catalogue : String) : Step → Option (List (String × String))
  | .row key (.save candidate) =>
      some [("message-key", key), ("message-value", candidate), ("message-catalogue", catalogue)]
  | .row key .confirmDelete => some [("message-key", key), ("message-catalogue", catalogue)]
  | .add _ key value =>
      some [("message-key", Text.trim key), ("message-value", value),
        ("message-catalogue", catalogue)]
  | _ => none

variable {config : EndpointConfig} {call : Call} {before middle after : Endpoint}

theorem Request.Carries.form {request : Request} (carries : request.Carries config call) :
    request.form = call.fields config.catalogue := by
  rw [Request.form, carries.2.2, Call.body, Form.read_write, List.map_map]
  refine (List.map_congr_left fun field _ => ?_).trans (List.map_id _)
  simp

theorem Session.step_form {session : Session} {command : Step}
    (called : (session.step command).2.call = some call) (catalogue : String) :
    command.form? catalogue = some (call.fields catalogue) := by
  obtain ⟨waiting, rfl, sends, _⟩ := session.step_sends called
  cases sends <;> rfl

/-- A post carries the form of the call. -/
def Exchange.Posts (config : EndpointConfig) (call : Call) (exchange : Exchange) : Prop :=
  exchange.request.method = .post → exchange.request.Carries config call

theorem Endpoint.Follows.posts {request : Request} {made : List Exchange}
    {result : Except Fault Response} (follows : Follows request made result)
    (carries : request.Carries config call) : ∀ exchange ∈ made, exchange.Posts config call := by
  induction follows with
  | unreachable request => exact List.forall_mem_nil _
  | broken | answered | stopped =>
      rintro _ member -
      rwa [List.mem_singleton.mp member]
  | followed request next response made result named later ih =>
      refine List.forall_mem_cons.mpr ⟨fun _ => carries, ?_⟩
      rcases followUp?_cases named with ⟨_, url, rfl⟩ | ⟨_, read⟩
      · exact ih carries
      · intro exchange member posts
        cases (later.reads read exchange member).symm.trans posts

/-- Further exchanges are made, and each post among them carries the form of the call. -/
def Endpoint.Posts (config : EndpointConfig) (call : Call) (before after : Endpoint) : Prop :=
  ∃ made, after.exchanges = before.exchanges ++ made ∧
    ∀ exchange ∈ made, exchange.Posts config call

namespace Endpoint.Posts

theorem refl (endpoint : Endpoint) : Posts config call endpoint endpoint :=
  ⟨[], (List.append_nil _).symm, List.forall_mem_nil _⟩

theorem trans (first : Posts config call before middle) (second : Posts config call middle after) :
    Posts config call before after := by
  obtain ⟨made, exchanges, posts⟩ := first
  obtain ⟨later, more, posts'⟩ := second
  refine ⟨made ++ later, by rw [more, exchanges, List.append_assoc], ?_⟩
  exact List.forall_mem_append.mpr ⟨posts, posts'⟩

end Endpoint.Posts

namespace Client

theorem attempt_posts (operation : Operation) (address : String) {request : Request}
    (carries : request.Carries config call) (endpoint : Endpoint) :
    Endpoint.Posts config call endpoint
      (attempt operation address (.ok request) endpoint).endpoint := by
  obtain ⟨made, exchanges, follows⟩ := Endpoint.send_follows request endpoint
  refine ⟨made, ?_, follows.posts carries⟩
  rw [← exchanges]
  simp only [attempt]
  split <;> simp [*]

theorem repeated_posts {operation : Operation} {act : Endpoint → Attempt} (retries : UInt32)
    (posts : ∀ endpoint, Endpoint.Posts config call endpoint (act endpoint).endpoint)
    (left : Nat) (number : UInt32) (endpoint : Endpoint) :
    Endpoint.Posts config call endpoint
      (repeated operation retries act left number endpoint).endpoint := by
  induction left generalizing number endpoint with
  | zero => exact posts endpoint
  | succ left ih =>
      simp only [repeated]
      split
      · exact posts endpoint
      · split
        · exact (posts endpoint).trans (ih (number + 1) _)
        · exact posts endpoint

theorem perform_posts (config : EndpointConfig) (call : Call) (endpoint : Endpoint) :
    Endpoint.Posts config call endpoint (perform config call endpoint).endpoint := by
  simp only [perform, logged_endpoint]
  cases made : call.request config with
  | error problem => exact .refl endpoint
  | ok request =>
      have posts := attempt_posts call.operation (config.address call.operation)
        (request_carries made)
      exact repeated_posts config.maxRetries posts config.maxRetries.toNat 0 endpoint

theorem exchanges_posts (config : EndpointConfig) (call : Call) (endpoint : Endpoint) :
    ∀ exchange ∈ exchanges config call endpoint, exchange.Posts config call := by
  obtain ⟨made, later, posts⟩ := perform_posts config call endpoint
  rw [exchanges, later, List.drop_left]
  exact posts

end Client

namespace Traffic

/-- A user's step of the run issued the call, under the ticket. -/
def Issued (start : Traffic) (turns : List Turn) (ticket : Nat) (command : Step) (call : Call) :
    Prop :=
  ∃ earlier later, turns = earlier ++ .user command :: later ∧
    let report := ((start.run earlier).session.step command).2
    report.answer = .inFlight ticket ∧ report.call = some call

variable {start traffic : Traffic} {turns : List Turn} {ticket : Nat}

theorem Issued.form {command : Step} (issued : start.Issued turns ticket command call)
    (catalogue : String) : command.form? catalogue = some (call.fields catalogue) := by
  obtain ⟨_, _, _, _, called⟩ := issued
  exact Session.step_form called catalogue

theorem Issued.further {command : Step} (issued : start.Issued turns ticket command call)
    (more : List Turn) : start.Issued (turns ++ more) ticket command call := by
  obtain ⟨earlier, later, rfl, reports⟩ := issued
  exact ⟨earlier, later ++ more, by simp, reports⟩

theorem run_concat (start : Traffic) (turns : List Turn) (turn : Turn) :
    start.run (turns ++ [turn]) = (start.run turns).turn turn :=
  start.run_append turns [turn]

theorem Does.keeps_config {turn : Turn} {after : Traffic} (does : traffic.Does turn after) :
    after.config = traffic.config := by
  cases does <;> rfl

theorem run_config (start : Traffic) (turns : List Turn) :
    (start.run turns).config = start.config := by
  induction turns generalizing start with
  | nil => rfl
  | cons turn rest ih => exact (ih (start.turn turn)).trans (start.turn_does turn).keeps_config

/-- A call that is in flight after a turn was so before, or the turn is the step that issued it. -/
theorem Does.origin {turn : Turn} {after : Traffic} (does : traffic.Does turn after)
    {waiting : Waiting} (member : (ticket, waiting) ∈ after.session.inFlight) :
    (ticket, waiting) ∈ traffic.session.inFlight ∨
      ∃ command, turn = .user command ∧
        (traffic.session.step command).2.answer = .inFlight ticket ∧
        (traffic.session.step command).2.call = some waiting.call := by
  cases does with
  | nothing => exact .inl member
  | told command own =>
      rcases traffic.session.step_starts own with ⟨_, calls, _⟩ | ⟨sent, called, calls, answer⟩
      · exact .inl (calls ▸ member)
      · rcases List.mem_append.mp (calls ▸ member) with earlier | now
        · exact .inl earlier
        · cases List.mem_singleton.mp now
          exact .inr ⟨command, rfl, answer, called⟩
  | arrived => exact .inl member
  | replied place answered found ended =>
      have calls := (Session.step_delivered (traffic.replay place answered.call).reply found).2
      exact .inl (List.mem_of_mem_filter (calls ▸ member))

theorem run_issued (idle : start.session.inFlight = []) {waiting : Waiting}
    (member : (ticket, waiting) ∈ (start.run turns).session.inFlight) :
    ∃ command, start.Issued turns ticket command waiting.call := by
  induction turns using List.reverseRecOn with
  | nil => simp [run, idle] at member
  | append_singleton turns turn ih =>
      rw [run_concat] at member
      rcases (turn_does _ turn).origin member with earlier | ⟨command, rfl, answer, called⟩
      · obtain ⟨command, issued⟩ := ih earlier
        exact ⟨command, issued.further [turn]⟩
      · exact ⟨command, turns, [], rfl, answer, called⟩

theorem request?_carries {request : Request} (sends : traffic.request? ticket call = some request)
    (posts : request.method = .post) : request.Carries traffic.config call := by
  obtain ⟨exchange, found, rfl⟩ := Option.map_eq_some_iff.mp sends
  obtain ⟨made, exchanges, carry⟩ := Client.perform_posts traffic.config call
    ⟨traffic.endpoint.isListening, traffic.heard ticket, []⟩
  have member := List.mem_of_getElem? found
  rw [replay, exchanges, List.nil_append] at member
  exact carry exchange member posts

/-- What a turn adds to the exchanges: requests of a call in flight, whose posts carry its form. -/
def Adds (traffic : Traffic) (turn : Turn) (after : Endpoint) : Prop :=
  ∃ made, after.exchanges = traffic.endpoint.exchanges ++ made ∧
    ∀ exchange ∈ made, ∃ ticket waiting, turn = .send ticket ∧
      (ticket, waiting) ∈ traffic.session.inFlight ∧
      exchange.Posts traffic.config waiting.call

theorem Does.adds {turn : Turn} {after : Traffic} (does : traffic.Does turn after) :
    traffic.Adds turn after.endpoint := by
  have nothing : traffic.Adds turn traffic.endpoint :=
    ⟨[], (List.append_nil _).symm, List.forall_mem_nil _⟩
  cases does with
  | nothing => exact nothing
  | told => exact nothing
  | replied => exact nothing
  | arrived ticket waiting request delivery found sends taken =>
      refine ⟨[⟨request, delivery⟩], Endpoint.take_exchanges (Prod.ext taken rfl), ?_⟩
      intro exchange member
      obtain rfl := List.mem_singleton.mp member
      exact ⟨ticket, waiting, rfl, mem_of_lookup found, request?_carries sends⟩

end Traffic

namespace Setup

variable {setup : Setup} {editor : Editor} {log : List LogLine}

theorem openEditor_ok (opened : setup.openEditor = .ok (editor, log)) :
    ∃ text callerLog, setup.pageUrl = some text ∧ Page.read text = .ok editor.page ∧
      setup.caller editor.page = .ok (editor.caller, callerLog) ∧
      editor.session.inFlight = [] := by
  unfold openEditor at opened
  split at opened
  · cases opened
  · rename_i text given
    cases read : Page.read text with
    | error cause => simp [read, bind, Except.bind] at opened
    | ok page =>
        cases called : setup.caller page with
        | error cause => simp [read, called, bind, Except.bind] at opened
        | ok caller =>
            simp only [read, called, bind, Except.bind] at opened
            cases opened
            exact ⟨text, caller.2, given, read, called, rfl⟩

theorem caller_ok (own : setup.client = none) {page : Page} {caller : Caller} {lines : List LogLine}
    (made : setup.caller page = .ok (caller, lines)) :
    ∃ settings, setup.settings = some settings ∧
      caller = .http (settings.endpoint page.catalogue) := by
  unfold Setup.caller at made
  split at made
  · rename_i given _ taken
    cases own.symm.trans taken
  · cases made
  · rename_i settings _ set
    dsimp only at made
    split at made
    · cases made
    · cases made
      exact ⟨settings, set, rfl⟩

end Setup

theorem Page.read_ok {text : String} {page : Page} (read : Page.read text = .ok page) :
    ∃ value, Url.ofText text = .ok page.url ∧ Form.get? page.url.fields parameter = some value ∧
      page.catalogue = String.ofList (Text.trimChars value) := by
  obtain ⟨value, address, found, trimmed, _⟩ := Page.read_ok_iff.mp read
  exact ⟨value, address, found, trimmed⟩

/-- An editor that makes its calls itself posts nothing but the forms of its user's operations. -/
theorem posts_carry_operation {setup : Setup} {editor : Editor} {log : List LogLine}
    (own : setup.client = none) (opened : setup.openEditor = .ok (editor, log)) :
    ∃ settings text url value,
      setup.settings = some settings ∧ setup.pageUrl = some text ∧ Url.ofText text = .ok url ∧
      Form.get? url.fields Page.parameter = some value ∧
      let catalogue := String.ofList (Text.trimChars value)
      let config := settings.endpoint catalogue
      editor.page.catalogue = catalogue ∧ editor.caller.catalogue = catalogue ∧
      editor.caller = .http config ∧
      (∀ call endpoint, ∀ exchange ∈ Client.exchanges config call endpoint,
        exchange.request.method = .post →
          exchange.request.contentType = some Call.formType ∧
          exchange.request.form = call.fields catalogue) ∧
      ∀ endpoint turns turn,
        let start := Traffic.opening config editor.session endpoint
        let now := start.run turns
        ∃ made, (now.turn turn).endpoint.exchanges = now.endpoint.exchanges ++ made ∧
          ∀ exchange ∈ made, exchange.request.method = .post →
            ∃ ticket command call, turn = .send ticket ∧ start.Issued turns ticket command call ∧
              exchange.request.contentType = some Call.formType ∧
              command.form? catalogue = some exchange.request.form := by
  obtain ⟨text, lines, given, read, called, idle⟩ := setup.openEditor_ok opened
  obtain ⟨settings, set, caller⟩ := Setup.caller_ok own called
  obtain ⟨value, url, named, trimmed⟩ := Page.read_ok read
  rw [trimmed] at caller
  refine ⟨settings, text, editor.page.url, value, set, given, url, named, trimmed,
    by rw [caller]; rfl, caller, ?_, ?_⟩
  · intro call endpoint exchange member posts
    have carries := Client.exchanges_posts _ call endpoint exchange member posts
    exact ⟨carries.2.1, carries.form⟩
  · intro endpoint turns turn start now
    obtain ⟨made, exchanges, sent⟩ := (now.turn_does turn).adds
    refine ⟨made, exchanges, fun exchange member posts => ?_⟩
    obtain ⟨ticket, waiting, sends, flying, carries⟩ := sent exchange member
    have unsent : start.session.inFlight = [] := idle
    obtain ⟨command, issued⟩ := Traffic.run_issued unsent flying
    have config : now.config = start.config := start.run_config turns
    have carried := carries posts
    refine ⟨ticket, command, waiting.call, sends, issued, carried.2.1, ?_⟩
    rw [issued.form, carried.form, config]
    rfl

theorem posts_carry_operation_below_context :
    let page := "http://[::1]/xmlui/admin/catalogue/messages?tab=1&catalogue=+a%26b%3Dc%2B&catalogue=d"
    let setup : Setup := ⟨some page, some (.ofBase "http://[::1]/xmlui"), none, []⟩
    ∃ editor log, setup.openEditor = .ok (editor, log) ∧ editor.caller.catalogue = "a&b=c+" ∧
      ∀ call endpoint, ∀ exchange ∈ Client.exchanges
          ((Settings.ofBase "http://[::1]/xmlui").endpoint "a&b=c+") call endpoint,
        exchange.request.method = .post → exchange.request.form = call.fields "a&b=c+" := by
  intro page setup
  have opens : (setup.openEditor.toOption.map (·.1.caller.catalogue)) = some "a&b=c+" := by
    decide +kernel
  cases opened : setup.openEditor with
  | error cause => simp [opened, Except.toOption] at opens
  | ok made =>
      obtain ⟨editor, log⟩ := made
      simp only [opened, Except.toOption, Option.map_some, Option.some.injEq] at opens
      have own : setup.client = none := rfl
      obtain ⟨settings, _, _, value, set, _, _, _, _, named, _, posts, _⟩ :=
        posts_carry_operation own opened
      cases set
      rw [named] at opens
      rw [opens] at posts
      refine ⟨editor, log, rfl, named.trans opens, ?_⟩
      intro call endpoint exchange member post
      exact (posts call endpoint exchange member post).2

end CatalogueEditor
