import CatalogueEditor.Session.Operations

/-!
Sessions: a desk with the operations whose calls are in flight. A session takes one step at a time,
in any order; replies arrive as steps of their own. A call in flight is known by its ticket, the
number of the step that issued it.
-/

namespace CatalogueEditor

structure Session where
  desk : Desk
  inFlight : List (Nat × Waiting)
  clock : Nat
deriving DecidableEq

/-- What the user does, what the endpoint replies, and what the page does to the screen by itself. -/
inductive Step
  | row (key : String) (action : RowAction)
  | openDialog (index : Nat)
  | closeDialog (index : Nat)
  | add (index : Nat) (key value : String)
  | deliver (ticket : Nat) (reply : Reply)
  | onScreen (event : Event)
  | look
deriving DecidableEq

inductive StepAnswer
  | outcome (outcome : Outcome)
  | done
  | refused (e : EditorError)
  | inFlight (ticket : Nat)
  | nothingInFlight
deriving DecidableEq

/-- A step's answer, the call it issued, the feedback events of its operation and its log. -/
structure Report where
  answer : StepAnswer
  call : Option Call
  events : List Event
  log : List LogLine
deriving DecidableEq

namespace Session

def opening (view : View) (dialogs : Nat) : Session :=
  ⟨.opening view dialogs, [], 0⟩

/-- The session and the report after an operation, or a part of one, has run. -/
def after (session : Session) (progress : Progress) : Session × Report :=
  let next (call : Option Call) (inFlight : List (Nat × Waiting)) (answer : StepAnswer) :=
    (⟨progress.work.desk, inFlight, session.clock + 1⟩,
      ⟨answer, call, progress.work.events, progress.work.log⟩)
  match progress.answer with
  | .outcome outcome => next none session.inFlight (.outcome outcome)
  | .done => next none session.inFlight .done
  | .refused e => next none session.inFlight (.refused e)
  | .waits waiting =>
      next (some waiting.call) (session.inFlight ++ [(session.clock, waiting)])
        (.inFlight session.clock)

def idle (session : Session) (answer : StepAnswer) : Session × Report :=
  ({ session with clock := session.clock + 1 }, ⟨answer, none, [], []⟩)

/-- Runs an operation of a dialog; a desk without that dialog does nothing. -/
def withDialog (session : Session) (index : Nat) (run : Dialog → Progress) : Session × Report :=
  match session.desk.dialogs[index]? with
  | none => session.idle .done
  | some dialog => session.after (run dialog)

def step (session : Session) : Step → Session × Report
  | .row key action => session.after (session.desk.dispatch key action)
  | .openDialog index => session.withDialog index (session.desk.openDialog index)
  | .closeDialog index => session.withDialog index (session.desk.closeDialog index)
  | .add index key value =>
      session.withDialog index fun dialog => session.desk.requestAdd index dialog key value
  | .deliver ticket reply =>
      match session.inFlight.lookup ticket with
      | none => session.idle .nothingInFlight
      | some waiting =>
          -- A reply arrives once: its ticket is gone before it is taken.
          let rest := session.inFlight.filter (·.1 != ticket)
          { session with inFlight := rest }.after (session.desk.deliver waiting reply)
  | .onScreen event =>
      let work := (Work.start session.desk).render event
      ({ session with desk := work.desk, clock := session.clock + 1 }, ⟨.done, none, [], work.log⟩)
  | .look => session.idle .done

/-- Delivers the reply to the call that a step has just issued. Together they are one step, whose
log may have lines of the call between its own. -/
def settle (session : Session) (report : Report) (ticket : Nat) (reply : Reply)
    (callLog : List LogLine) : Session × Report :=
  let (final, more) := session.step (.deliver ticket reply)
  ({ final with clock := session.clock },
    { answer := more.answer, call := report.call
      events := report.events ++ more.events, log := report.log ++ callLog ++ more.log })

/-- A step whose call, if it issues one, is replied to before any other step. -/
def stepReplied (session : Session) (command : Step) (reply : Option Reply) : Session × Report :=
  let (next, report) := session.step command
  match report.answer, reply with
  | .inFlight ticket, some reply => next.settle report ticket reply []
  | _, _ => (next, report)

end Session

end CatalogueEditor
