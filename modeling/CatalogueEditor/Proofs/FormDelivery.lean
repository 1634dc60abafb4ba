import CatalogueEditor.Endpoint.Client
import CatalogueEditor.Proofs.Redirects

/-!
What success of a call says about the form that was posted. A call succeeds exactly if one of its
requests is answered with a status of success; that request is the last one of the call. It carries
the form unless the form was diverted, which is when a post of it is answered with a location that is
only read.
-/

namespace CatalogueEditor

/-- The request posts the form of the call. -/
def Request.Carries (request : Request) (config : EndpointConfig) (call : Call) : Prop :=
  request.method = .post ∧ request.contentType = some Call.formType ∧
    request.body = call.body config.catalogue

/-- The form was posted, and the status of the response said to read another location. What followed
were reads, one of them accepted. -/
def Diverted (config : EndpointConfig) (call : Call) (made : List Exchange) : Prop :=
  ∃ front request response reads,
    made = front ++ ⟨request, .response response⟩ :: reads ∧ request.Carries config call ∧
      Endpoint.readsLocation response.status ∧
      (∀ exchange ∈ reads, exchange.request.method = .get) ∧
      ∃ exchange ∈ reads, exchange.IsAccepted

variable {config : EndpointConfig} {call : Call} {made : List Exchange}

theorem Diverted.behind (diverted : Diverted config call made) (earlier : List Exchange) :
    Diverted config call (earlier ++ made) := by
  obtain ⟨front, request, response, reads, rfl, posted⟩ := diverted
  exact ⟨earlier ++ front, request, response, reads, (List.append_assoc ..).symm, posted⟩

theorem Endpoint.Follows.carries_or_diverted {request : Request}
    {result : Except Fault Response} (follows : Follows request made result)
    (posts : request.Carries config call) {exchange : Exchange} (member : exchange ∈ made)
    (accepted : exchange.IsAccepted) :
    exchange.request.Carries config call ∨ Diverted config call made := by
  induction follows with
  | unreachable request => cases member
  | broken | answered | stopped =>
      rw [List.mem_singleton.mp member]
      exact .inl posts
  | followed request next response made result named later ih =>
      rcases List.mem_cons.mp member with rfl | behind
      · exact .inl posts
      · rcases followUp?_cases named with ⟨_, url, rfl⟩ | ⟨status, read⟩
        · exact (ih posts behind).imp_right (·.behind [⟨request, .response response⟩])
        -- The form is lost here: what is made from now on are reads.
        · exact .inr ⟨[], request, response, made, rfl, posts, status, later.reads read,
            exchange, behind, accepted⟩

namespace Client

/-- What the exchanges of a call tell about its success. -/
structure Told (config : EndpointConfig) (call : Call) (made : List Exchange)
    (succeeds : Prop) : Prop where
  accepted : succeeds ↔ ∃ exchange ∈ made, exchange.IsAccepted
  last : ∀ exchange ∈ made, exchange.IsAccepted → made.getLast? = some exchange
  form : ∀ exchange ∈ made, exchange.IsAccepted →
    exchange.request.Carries config call ∨ Diverted config call made

theorem Told.again {later : List Exchange} {fails succeeds : Prop}
    (first : Told config call made fails) (failed : ¬ fails)
    (rest : Told config call later succeeds) : Told config call (made ++ later) succeeds := by
  have behind : ∀ exchange ∈ made ++ later, exchange.IsAccepted → exchange ∈ later := by
    intro exchange member accepted
    rcases List.mem_append.mp member with early | late
    · exact absurd (first.accepted.mpr ⟨exchange, early, accepted⟩) failed
    · exact late
  constructor
  · rw [rest.accepted]
    constructor
    · rintro ⟨exchange, member, accepted⟩
      exact ⟨exchange, List.mem_append_right made member, accepted⟩
    · rintro ⟨exchange, member, accepted⟩
      exact ⟨exchange, behind exchange member accepted, accepted⟩
  · intro exchange member accepted
    rw [List.getLast?_append, rest.last exchange (behind exchange member accepted) accepted]
    rfl
  · intro exchange member accepted
    exact (rest.form exchange (behind exchange member accepted) accepted).imp_right (·.behind made)

theorem told_of_follows {request : Request} {result : Except Fault Response}
    (follows : Endpoint.Follows request made result) (posts : request.Carries config call) :
    Told config call made
      (∃ response, result = .ok response ∧ Status.isSuccess response.status) where
  accepted := follows.accepted_iff
  last _ := follows.accepted_last
  form _ := follows.carries_or_diverted posts

/-- What is added to the exchanges tells whether a call ends well. -/
def Tells (config : EndpointConfig) (call : Call) (before after : Endpoint) (ending : Ending) :
    Prop :=
  ∃ made, after.exchanges = before.exchanges ++ made ∧ Told config call made (ending = .ok ())

theorem Tells.again {before middle after : Endpoint} {failed ending : Ending}
    (first : Tells config call before middle failed) (refused : failed ≠ .ok ())
    (rest : Tells config call middle after ending) : Tells config call before after ending := by
  obtain ⟨made, exchanges, told⟩ := first
  obtain ⟨later, more, retold⟩ := rest
  refine ⟨made ++ later, ?_, told.again refused retold⟩
  rw [more, exchanges, List.append_assoc]

theorem exists_ok_of_isOk {ε α : Type} {result : Except ε α} (fine : result.isOk) :
    ∃ value, result = .ok value := by
  cases result with
  | error cause => cases fine
  | ok value => exact ⟨value, rfl⟩

theorem eq_ok_of_isOk {ε : Type} {ending : Except ε Unit} (fine : ending.isOk) : ending = .ok () :=
  (exists_ok_of_isOk fine).choose_spec

theorem ending_ok_iff (operation : Operation) (response : Response) :
    ending operation response = .ok () ↔ Status.isSuccess response.status := by
  unfold ending
  split <;> simp [*]

@[simp] theorem logged_ending (run : Run) (lines : List LogLine) :
    (run.logged lines).ending = run.ending := rfl

@[simp] theorem logged_endpoint (run : Run) (lines : List LogLine) :
    (run.logged lines).endpoint = run.endpoint := rfl

theorem unaddressed_tells (operation : Operation) (address : String) (problem : UrlProblem)
    (endpoint : Endpoint) :
    Tells config call endpoint (attempt operation address (.error problem) endpoint).endpoint
      (attempt operation address (.error problem) endpoint).ending := by
  refine ⟨[], (List.append_nil _).symm, ?_⟩
  constructor
  · simp [attempt]
  · simp
  · simp

theorem attempt_tells (operation : Operation) (address : String) {request : Request}
    (posts : request.Carries config call) (endpoint : Endpoint) :
    Tells config call endpoint (attempt operation address (.ok request) endpoint).endpoint
      (attempt operation address (.ok request) endpoint).ending := by
  obtain ⟨made, exchanges, follows⟩ := Endpoint.send_follows request endpoint
  have told := told_of_follows follows posts
  refine ⟨made, ?_⟩
  simp only [attempt]
  rcases sent : endpoint.send request with ⟨fault | response, after⟩
  · simp only [sent, reduceCtorEq, false_and, exists_false] at exchanges told
    exact ⟨exchanges, by simpa using told⟩
  · simp only [sent, Except.ok.injEq, exists_eq_left'] at exchanges told
    exact ⟨exchanges, by simpa [ending_ok_iff] using told⟩

theorem repeated_tells {operation : Operation} {act : Endpoint → Attempt} (retries : UInt32)
    (told : ∀ endpoint, Tells config call endpoint (act endpoint).endpoint (act endpoint).ending)
    (left : Nat) (number : UInt32) (endpoint : Endpoint) :
    Tells config call endpoint (repeated operation retries act left number endpoint).endpoint
      (repeated operation retries act left number endpoint).ending := by
  induction left generalizing number endpoint with
  | zero => exact told endpoint
  | succ left ih =>
      simp only [repeated]
      split
      · exact told endpoint
      · rename_i cause failed
        split
        · exact (told endpoint).again (by simp [failed]) (ih (number + 1) _)
        · exact told endpoint

theorem request_carries {request : Request} (made : call.request config = .ok request) :
    request.Carries config call := by
  unfold Call.request at made
  split at made
  · cases made
  · cases made
    exact ⟨rfl, rfl, rfl⟩

theorem perform_tells (config : EndpointConfig) (call : Call) (endpoint : Endpoint) :
    Tells config call endpoint (perform config call endpoint).endpoint
      (perform config call endpoint).ending := by
  simp only [perform, logged_ending, logged_endpoint]
  cases made : call.request config with
  | error problem =>
      exact unaddressed_tells call.operation (config.address call.operation) problem endpoint
  | ok request =>
      have told := attempt_tells call.operation (config.address call.operation)
        (request_carries made)
      exact repeated_tells config.maxRetries told config.maxRetries.toNat 0 endpoint

/-- The exchanges that a call adds to those that the endpoint has had. -/
def exchanges (config : EndpointConfig) (call : Call) (endpoint : Endpoint) : List Exchange :=
  (perform config call endpoint).endpoint.exchanges.drop endpoint.exchanges.length

theorem exchanges_told (config : EndpointConfig) (call : Call) (endpoint : Endpoint) :
    Told config call (exchanges config call endpoint)
      ((perform config call endpoint).ending = .ok ()) := by
  obtain ⟨made, later, told⟩ := perform_tells config call endpoint
  rw [exchanges, later, List.drop_left]
  exact told

/-- If the call succeeds, a request that posted its form was answered with success. -/
def Confirms (config : EndpointConfig) (call : Call) (endpoint : Endpoint) : Prop :=
  (perform config call endpoint).ending = .ok () →
    ∃ exchange ∈ exchanges config call endpoint,
      exchange.request.Carries config call ∧ exchange.IsAccepted

/-- Whatever the endpoint delivers, a call succeeds exactly if one of its requests is answered with
success, and that request has posted the form exactly if the form was not diverted. -/
theorem confirms_iff_not_diverted (config : EndpointConfig) (call : Call) (endpoint : Endpoint) :
    ((perform config call endpoint).ending = .ok () ↔
      ∃ exchange ∈ exchanges config call endpoint, exchange.IsAccepted) ∧
    (Confirms config call endpoint ↔ ¬ Diverted config call (exchanges config call endpoint)) := by
  have told := exchanges_told config call endpoint
  refine ⟨told.accepted, ?_⟩
  constructor
  · intro confirms diverted
    obtain ⟨front, request, response, reads, split, _, _, read, last, behind, accepted⟩ := diverted
    have member : last ∈ exchanges config call endpoint := by
      rw [split]
      exact List.mem_append_right front (List.mem_cons_of_mem _ behind)
    obtain ⟨exchange, here, posts, success⟩ := confirms (told.accepted.mpr ⟨last, member, accepted⟩)
    -- Only the last exchange is accepted, so that the one that posts is the one that reads.
    have same : last = exchange := Option.some.inj
      ((told.last last member accepted).symm.trans (told.last exchange here success))
    have both : Method.get = .post := (read last behind).symm.trans (same ▸ posts.1)
    cases both
  · intro direct succeeds
    obtain ⟨exchange, member, accepted⟩ := told.accepted.mp succeeds
    have posts := (told.form exchange member accepted).resolve_right direct
    exact ⟨exchange, member, posts, accepted⟩

/-- An endpoint that asks for a login answers the form with the location of its login page. That page is
read, and the save succeeds. -/
theorem login_confirms_nothing :
    let config := EndpointConfig.ofBase "http://[::1]/xmlui" "CAT"
    let login : Response := ⟨302, [], false, some "/login"⟩
    config.check = .ok () ∧
      ¬ Confirms config (.save "k" "v") ⟨true, [.response login], []⟩ := by
  intro config login
  have valid : config.check.isOk := by decide +kernel
  have succeeds : (perform config (.save "k" "v") ⟨true, [.response login], []⟩).ending.isOk := by
    decide +kernel
  have diverted : ∀ exchange ∈ exchanges config (.save "k" "v") ⟨true, [.response login], []⟩,
      exchange.request.method = .post → exchange.delivery = .response login := by
    decide +kernel
  refine ⟨eq_ok_of_isOk valid, fun confirms => ?_⟩
  obtain ⟨exchange, member, posts, response, delivered, success⟩ :=
    confirms (eq_ok_of_isOk succeeds)
  cases (diverted exchange member posts.1).symm.trans delivered
  cases success

end Client
end CatalogueEditor
