import Mathlib.Logic.Function.Basic
import CatalogueEditor.Endpoint.Client
import CatalogueEditor.Session.Steps

/-!
A session whose calls are made over HTTP, any number of them at a time. Requests of different calls reach
the endpoint in any order, and a call that has ended is heard of at any later time. What a call sends
next, and how it ends, follows from what was delivered for its own requests; other calls only decide which
delivery is the next one of the script.
-/

namespace CatalogueEditor

structure Traffic where
  config : EndpointConfig
  session : Session
  endpoint : Endpoint
  /-- What was delivered for the requests of a call so far, by its ticket. -/
  heard : Nat → List Delivery
  reports : List Report

namespace Traffic

inductive Turn
  | user (command : Step)
  /-- The next request of a call reaches the endpoint. -/
  | send (ticket : Nat)
  /-- The reply of a call that has ended is delivered. -/
  | hear (ticket : Nat)

def opening (config : EndpointConfig) (session : Session) (endpoint : Endpoint) : Traffic :=
  ⟨config, session, endpoint, fun _ => [], []⟩

/-- A call as it has gone so far, and as it would go on if all were well from now on. -/
def replay (traffic : Traffic) (ticket : Nat) (call : Call) : Client.Run :=
  Client.perform traffic.config call ⟨traffic.endpoint.isListening, traffic.heard ticket, []⟩

/-- The request that a call sends next, unless it has ended. -/
def request? (traffic : Traffic) (ticket : Nat) (call : Call) : Option Request :=
  ((traffic.replay ticket call).endpoint.exchanges[(traffic.heard ticket).length]?).map
    Exchange.request

def tell (traffic : Traffic) (command : Step) : Traffic :=
  { traffic with
    session := (traffic.session.step command).1
    reports := traffic.reports ++ [(traffic.session.step command).2] }

/-- A request of the call of the ticket arrives, and something is delivered for it. -/
def arrive (traffic : Traffic) (ticket : Nat) (request : Request) : Traffic :=
  match (traffic.endpoint.take request).1 with
  | none => traffic
  | some delivery =>
      { traffic with
        endpoint := (traffic.endpoint.take request).2
        heard := Function.update traffic.heard ticket (traffic.heard ticket ++ [delivery]) }

def turn (traffic : Traffic) : Turn → Traffic
  -- Replies come from the endpoint only.
  | .user (.deliver _ _) => traffic
  | .user command => traffic.tell command
  | .send ticket =>
      match traffic.session.inFlight.lookup ticket with
      | none => traffic
      | some waiting =>
          match traffic.request? ticket waiting.call with
          | none => traffic
          | some request => traffic.arrive ticket request
  | .hear ticket =>
      match traffic.session.inFlight.lookup ticket with
      | none => traffic
      | some waiting =>
          match traffic.request? ticket waiting.call with
          | some _ => traffic
          | none => traffic.tell (.deliver ticket (traffic.replay ticket waiting.call).reply)

def run (traffic : Traffic) : List Turn → Traffic
  | [] => traffic
  | turn :: rest => (traffic.turn turn).run rest

theorem turn_user (traffic : Traffic) {command : Step}
    (own : ∀ ticket reply, command ≠ .deliver ticket reply) :
    traffic.turn (.user command) = traffic.tell command := by
  cases command with
  | deliver ticket reply => exact absurd rfl (own ticket reply)
  | _ => rfl

theorem run_append (start : Traffic) (turns more : List Turn) :
    start.run (turns ++ more) = (start.run turns).run more := by
  induction turns generalizing start with
  | nil => rfl
  | cons first rest ih => exact ih (start.turn first)

/-- All that a turn can do. -/
inductive Does (traffic : Traffic) : Turn → Traffic → Prop
  | nothing (turn : Turn) : Does traffic turn traffic
  | told (command : Step) (own : ∀ ticket reply, command ≠ .deliver ticket reply) :
      Does traffic (.user command) (traffic.tell command)
  | arrived (ticket : Nat) (waiting : Waiting) (request : Request) (delivery : Delivery)
      (found : traffic.session.inFlight.lookup ticket = some waiting)
      (sends : traffic.request? ticket waiting.call = some request)
      (taken : (traffic.endpoint.take request).1 = some delivery) :
      Does traffic (.send ticket)
        { traffic with
          endpoint := (traffic.endpoint.take request).2
          heard := Function.update traffic.heard ticket (traffic.heard ticket ++ [delivery]) }
  | replied (ticket : Nat) (waiting : Waiting)
      (found : traffic.session.inFlight.lookup ticket = some waiting)
      (ended : traffic.request? ticket waiting.call = none) :
      Does traffic (.hear ticket)
        (traffic.tell (.deliver ticket (traffic.replay ticket waiting.call).reply))

theorem turn_does (traffic : Traffic) (turn : Turn) : traffic.Does turn (traffic.turn turn) := by
  cases turn with
  | user command =>
      cases command with
      | deliver ticket reply => exact .nothing _
      | row | openDialog | closeDialog | add | onScreen | look => exact .told _ (by simp)
  | send ticket =>
      simp only [Traffic.turn]
      split
      · exact .nothing _
      · rename_i waiting found
        split
        · exact .nothing _
        · rename_i request sends
          unfold arrive
          split
          · exact .nothing _
          · rename_i delivery taken
            exact .arrived ticket waiting request delivery found sends taken
  | hear ticket =>
      simp only [Traffic.turn]
      split
      · exact .nothing _
      · rename_i waiting found
        split
        · exact .nothing _
        · rename_i ended
          exact .replied ticket waiting found ended

end Traffic

end CatalogueEditor
