import CatalogueEditor.Endpoint.Exchange

/-!
The exchanges that are made for one request: each is for the location that the response before has
named, and at most the last one is answered with a status of success.
-/

namespace CatalogueEditor

def Exchange.IsAccepted (exchange : Exchange) : Prop :=
  ∃ response, exchange.delivery = .response response ∧ Status.isSuccess response.status

namespace Endpoint

variable {request next : Request} {response : Response} {made : List Exchange}
  {result : Except Fault Response}

theorem take_exchanges {endpoint after : Endpoint} {delivery : Delivery}
    (taken : endpoint.take request = (some delivery, after)) :
    after.exchanges = endpoint.exchanges ++ [⟨request, delivery⟩] := by
  by_cases listening : endpoint.isListening
  · simp only [take, listening, ↓reduceIte, Prod.mk.injEq, Option.some.injEq] at taken
    obtain ⟨rfl, rfl⟩ := taken
    rfl
  · simp [take, listening] at taken

theorem take_unreachable {endpoint after : Endpoint}
    (missed : endpoint.take request = (none, after)) : after = endpoint := by
  by_cases listening : endpoint.isListening
  · simp [take, listening] at missed
  · simp only [take, listening, Bool.false_eq_true, ↓reduceIte, Prod.mk.injEq, true_and] at missed
    exact missed.symm

/-- The request that follows is the same one for another location, or a read. -/
theorem followUp?_cases (named : followUp? request response = some next) :
    (repeatsRequest response.status ∧ ∃ url, next = { request with url }) ∨
      (readsLocation response.status ∧ next.method = .get) := by
  unfold followUp? at named
  split at named
  · rename_i url _
    split at named
    · rename_i repeats
      exact .inl ⟨repeats, url, (Option.some.inj named).symm⟩
    · split at named
      · rename_i reads
        cases named
        exact .inr ⟨reads, rfl⟩
      · cases named
  · cases named

theorem not_isSuccess_of_followUp? (named : followUp? request response = some next) :
    Status.isSuccess response.status = false := by
  rcases followUp?_cases named with ⟨repeats, _⟩ | ⟨reads, _⟩
  · simp only [repeatsRequest, Bool.or_eq_true, beq_iff_eq] at repeats
    rcases repeats with status | status <;> rw [status] <;> rfl
  · simp only [readsLocation, Bool.or_eq_true, beq_iff_eq] at reads
    rcases reads with (status | status) | status <;> rw [status] <;> rfl

/-- What becomes of a request: the exchanges that are made for it, each for the location that the
response before has named, and the result. -/
inductive Follows : Request → List Exchange → Except Fault Response → Prop
  | unreachable (request : Request) : Follows request [] (.error .unreachable)
  | broken (request : Request) (delivery : Delivery) (fault : Fault)
      (without : ∀ response, delivery ≠ .response response) :
      Follows request [⟨request, delivery⟩] (.error fault)
  | answered (request : Request) (response : Response)
      (last : followUp? request response = none) :
      Follows request [⟨request, .response response⟩] (.ok response)
  | stopped (request next : Request) (response : Response) (fault : Fault)
      (named : followUp? request response = some next) :
      Follows request [⟨request, .response response⟩] (.error fault)
  | followed (request next : Request) (response : Response) (made : List Exchange)
      (result : Except Fault Response) (named : followUp? request response = some next)
      (later : Follows next made result) :
      Follows request (⟨request, .response response⟩ :: made) result

theorem sendWithin_follows (limit : Nat) (request : Request) (endpoint : Endpoint) :
    ∃ made, (sendWithin limit request endpoint).2.exchanges = endpoint.exchanges ++ made ∧
      Follows request made (sendWithin limit request endpoint).1 := by
  fun_induction sendWithin limit request endpoint with
  | case1 limit request endpoint after missed =>
      exact ⟨[], by simp [take_unreachable missed], .unreachable request⟩
  | case2 limit request endpoint after taken =>
      exact ⟨_, take_exchanges taken, .broken request .closed .closed nofun⟩
  | case3 limit request endpoint after taken =>
      exact ⟨_, take_exchanges taken, .broken request .silent .silent nofun⟩
  | case4 limit request endpoint response after taken last =>
      exact ⟨_, take_exchanges taken, .answered request response last⟩
  | case5 request endpoint response after taken next named =>
      exact ⟨_, take_exchanges taken, .stopped request next response .tooManyRedirects named⟩
  | case6 request endpoint response after taken next limit named _ ih =>
      obtain ⟨made, exchanges, later⟩ := ih
      refine ⟨⟨request, .response response⟩ :: made, ?_,
        .followed request next response made _ named later⟩
      rw [exchanges, take_exchanges taken, List.append_assoc]
      rfl
  | case7 request endpoint response after taken next limit named _ =>
      exact ⟨_, take_exchanges taken, .stopped request next response .badAddress named⟩

theorem send_follows (request : Request) (endpoint : Endpoint) :
    ∃ made, (endpoint.send request).2.exchanges = endpoint.exchanges ++ made ∧
      Follows request made (endpoint.send request).1 :=
  sendWithin_follows redirectLimit request endpoint

namespace Follows

/-- A response with a status of success is not followed, and no other result is a success. -/
theorem accepted_iff (follows : Follows request made result) :
    (∃ response, result = .ok response ∧ Status.isSuccess response.status) ↔
      ∃ exchange ∈ made, exchange.IsAccepted := by
  induction follows with
  | unreachable request => simp
  | broken request delivery fault without => simp [Exchange.IsAccepted, without]
  | answered request response last => simp [Exchange.IsAccepted]
  | stopped request next response fault named =>
      simp [Exchange.IsAccepted, not_isSuccess_of_followUp? named]
  | followed request next response made result named later ih =>
      simp [ih, Exchange.IsAccepted, not_isSuccess_of_followUp? named]

theorem accepted_last (follows : Follows request made result) {exchange : Exchange}
    (member : exchange ∈ made) (accepted : exchange.IsAccepted) :
    made.getLast? = some exchange := by
  induction follows with
  | unreachable request => cases member
  | broken | answered | stopped =>
      rw [List.mem_singleton.mp member]
      rfl
  | followed request next response made result named later ih =>
      rcases List.mem_cons.mp member with rfl | behind
      · obtain ⟨_, ⟨⟩, success⟩ := accepted
        simp [not_isSuccess_of_followUp? named] at success
      · rw [List.getLast?_cons, ih behind]
        rfl

theorem reads (follows : Follows request made result) (read : request.method = .get) :
    ∀ exchange ∈ made, exchange.request.method = .get := by
  induction follows with
  | unreachable request => simp
  | broken | answered | stopped => simpa using read
  | followed request next response made result named later ih =>
      have again : next.method = .get := by
        rcases followUp?_cases named with ⟨_, url, rfl⟩ | ⟨_, reads⟩
        · exact read
        · exact reads
      intro exchange member
      rcases List.mem_cons.mp member with rfl | behind
      · exact read
      · exact ih again exchange behind

end Follows
end Endpoint

end CatalogueEditor
