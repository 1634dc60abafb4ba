import CatalogueEditor.Proofs.Rendering
import CatalogueEditor.Proofs.Completion

/-!
What a step reads settles what it does. An operation on the row of a key, other than a prompt to
delete, reads that row and at most its dialog. From these follow its answer, the events that it shows,
and what it does to that row; it does the same wherever it reads the same.
-/

namespace CatalogueEditor

/-- What an operation does to the row of its key. -/
inductive RowChange
  | keep
  | setState (state : RowState)
  | store (value : String)
  | put (value : String)
  | erase

namespace RowChange

def apply (key : String) (view : View) : RowChange → View
  | keep => view
  | setState state => view.setState key state
  | store value => view.store key value
  | put value => view.put key value
  | erase => view.erase key

/-- The row of the key after the change. -/
def row (key : String) (entry : Option Entry) : RowChange → Option Entry
  | keep => entry
  | setState state => entry.map fun entry => { entry with state }
  | store value => entry.map fun entry => { entry with value, state := .viewing }
  | put value => some ⟨key, value, .viewing⟩
  | erase => none

/-- The keys of the view after the change, in their order. -/
def order (key : String) (keys : List String) : RowChange → List String
  | put _ => if key ∈ keys then keys else keys ++ [key]
  | erase => keys.erase key
  | _ => keys

/-- The change may append a row. -/
def Appends : RowChange → Prop
  | put _ => True
  | _ => False

variable {view : View} {key other : String} (change : RowChange)

theorem keys_apply : (change.apply key view).keys = change.order key view.keys := by
  cases change with
  | keep => rfl
  | setState => exact View.keys_setState _
  | store => exact View.keys_store _
  | put => exact View.keys_put _
  | erase => exact View.keys_erase

theorem get?_apply (distinct : view.keys.Nodup) : (change.apply key view).get? other =
    if other = key then change.row key (view.get? key) else view.get? other := by
  cases change with
  | keep =>
      split
      · rename_i same
        rw [same]
        rfl
      · rfl
  | setState => exact View.get?_modify fun _ => rfl
  | store => exact View.get?_modify fun _ => rfl
  | put value => exact View.get?_put value
  | erase => exact View.get?_erase distinct

theorem distinct_apply (distinct : view.keys.Nodup) : (change.apply key view).keys.Nodup := by
  cases change with
  | keep => exact distinct
  | setState state => exact (View.keys_setState state).symm ▸ distinct
  | store value => exact (View.keys_store value).symm ▸ distinct
  | put value => exact View.nodup_put distinct value
  | erase => exact View.keys_erase.symm ▸ distinct.erase key

end RowChange

/-- What an operation on a row does, once it is settled. -/
structure Plan where
  change : RowChange
  dialogs : List Dialog → List Dialog
  events : List Event
  answer : Answer

namespace Plan

/-- The operation ran as planned on a desk. -/
structure Runs (plan : Plan) (key : String) (desk : Desk) (progress : Progress) : Prop where
  view : progress.work.desk.view = plan.change.apply key desk.view
  dialogs : progress.work.desk.dialogs = plan.dialogs desk.dialogs
  screen : progress.work.desk.screen = plan.events.foldl Screen.apply desk.screen
  events : progress.work.events = plan.events
  answer : progress.answer = plan.answer

/-- The plan renders the row of the key only. -/
def Own (plan : Plan) (key : String) : Prop :=
  ∀ event ∈ plan.events, ∀ other, event.key? = some other → other = key

/-- The plan leaves the dialogs alone and appends no row. -/
def Plain (plan : Plan) : Prop :=
  (∀ dialogs, plan.dialogs dialogs = dialogs) ∧ ¬ plan.change.Appends

/-- Nothing is done but to answer. -/
def answering (answer : Answer) : Plan := ⟨.keep, id, [], answer⟩

variable {key : String} {answer : Answer}

theorem answering_own : (answering answer).Own key := fun _ member => by cases member

theorem answering_plain : (answering answer).Plain := ⟨fun _ => rfl, id⟩

end Plan

/-! The events of a piece of work. -/
namespace Work

variable (work : Work)

@[simp] theorem start_events (desk : Desk) : (start desk).events = [] := rfl

@[simp] theorem say_events (level : Level) (text : String) :
    (work.say level text).events = work.events := rfl

@[simp] theorem sayFailure_events (key : String) (cause : RequestError) :
    (work.sayFailure key cause).events = work.events := by
  unfold sayFailure
  split <;> rfl

@[simp] theorem render_events (event : Event) :
    (work.render event).events = work.events ++ [event] := rfl

@[simp] theorem changeView_events (change : View → View) :
    (work.changeView change).events = work.events := rfl

@[simp] theorem setState_events (key : String) (state : RowState) :
    (work.setState key state).events = work.events := rfl

@[simp] theorem setDialog_events (index : Nat) (dialog : Dialog) :
    (work.setDialog index dialog).events = work.events := rfl

end Work

/-! Operations before a call. Their plans read the row of the key. -/

/-- An accepted action reads no more of the desk. -/
theorem Work.perform_plan (key : String) {action : RowAction} (noPrompt : action ≠ .delete) :
    ∃ plan : Plan, plan.Own key ∧ plan.Plain ∧
      ∀ work : Work, work.events = [] → plan.Runs key work.desk (work.perform key action) := by
  cases action with
  | edit =>
      refine ⟨⟨.setState .editing, id, [.clearRow key, .renderState key .editing],
        .outcome (.transitioned .editing)⟩, ?_, ⟨fun _ => rfl, id⟩, fun work silent => ?_⟩
      · simp [Plan.Own, Event.key?]
      · constructor <;> simp [perform, edit, ends, silent, RowChange.apply]
  | save candidate =>
      cases checked : Markup.validate candidate with
      | error problem =>
          refine ⟨⟨.keep, id, [.renderRow key .warning, .showBanner .invalidContent],
            .outcome (.rejected .invalidContent)⟩, ?_, ⟨fun _ => rfl, id⟩, fun work silent => ?_⟩
          · simp [Plan.Own, Event.key?]
          · constructor <;> simp [perform, requestSave, checked, ends, silent, RowChange.apply]
      | ok _ =>
          refine ⟨⟨.setState .saving, id, [.renderState key .saving],
            .waits (.save key candidate)⟩, ?_, ⟨fun _ => rfl, id⟩, fun work silent => ?_⟩
          · simp [Plan.Own, Event.key?]
          · constructor <;> simp [perform, requestSave, checked, awaits, silent, RowChange.apply]
  | delete => exact absurd rfl noPrompt
  | confirmDelete =>
      refine ⟨⟨.setState .deleting, id, [.renderState key .deleting], .waits (.remove key)⟩, ?_,
        ⟨fun _ => rfl, id⟩, fun work silent => ?_⟩
      · simp [Plan.Own, Event.key?]
      · constructor <;> simp [perform, requestDelete, awaits, silent, RowChange.apply]
  | cancelDelete =>
      refine ⟨⟨.setState .viewing, id, [.renderState key .viewing],
        .outcome (.transitioned .viewing)⟩, ?_, ⟨fun _ => rfl, id⟩, fun work silent => ?_⟩
      · simp [Plan.Own, Event.key?]
      · constructor <;> simp [perform, cancelDelete, ends, silent, RowChange.apply]

namespace Desk

theorem dispatch_plan (row : Option Entry) (key : String) {action : RowAction}
    (noPrompt : action ≠ .delete) :
    ∃ plan : Plan, plan.Own key ∧ plan.Plain ∧
      ∀ desk : Desk, desk.view.get? key = row → plan.Runs key desk (desk.dispatch key action) := by
  cases row with
  | none =>
      refine ⟨.answering (.refused (.entryNotFound key)), Plan.answering_own, Plan.answering_plain,
        fun desk found => ?_⟩
      simp only [dispatch, found]
      exact ⟨rfl, rfl, rfl, rfl, rfl⟩
  | some entry =>
      by_cases accepted : entry.state.accepts action
      · obtain ⟨plan, own, plain, runs⟩ := Work.perform_plan key noPrompt
        refine ⟨plan, own, plain, fun desk found => ?_⟩
        simp only [dispatch, found, if_pos accepted]
        exact runs ((Work.start desk).say .debug _) rfl
      · refine ⟨.answering (.refused (.invalidTransition key entry.state.display action.name)),
          Plan.answering_own, Plan.answering_plain, fun desk found => ?_⟩
        simp only [dispatch, found, if_neg accepted]
        exact ⟨rfl, rfl, rfl, rfl, rfl⟩

theorem submit_plan (row : Option Entry) (index : Nat) (draft : Dialog) :
    ∃ plan : Plan, plan.Own draft.key ∧
      ∀ work : Work, work.events = [] → work.desk.view.get? draft.key = row →
        plan.Runs draft.key work.desk (submit work index draft) := by
  cases row with
  | none =>
      refine ⟨⟨.keep, (·.set index { draft with phase := .submitting }), [],
        .waits (.add index draft.key draft.value false)⟩, ?_, fun work silent found => ?_⟩
      · simp [Plan.Own]
      · constructor <;> simp [submit, found, Work.awaits, silent, RowChange.apply]
  | some entry =>
      by_cases viewed : entry.state = .viewing
      · refine ⟨⟨.setState .saving, (·.set index { draft with phase := .submitting }),
          [.renderState draft.key .saving], .waits (.add index draft.key draft.value true)⟩, ?_,
          fun work silent found => ?_⟩
        · simp [Plan.Own, Event.key?]
        · constructor <;> simp [submit, found, viewed, Work.awaits, silent, RowChange.apply]
      · refine ⟨.answering (.refused (.invalidTransition draft.key entry.state.display "add")),
          Plan.answering_own, fun work silent found => ?_⟩
        simp only [submit, found, if_neg viewed]
        exact ⟨rfl, rfl, rfl, silent, rfl⟩

/-- An add also keeps its drafts in the dialog. -/
theorem requestAdd_plan (row : Option Entry) (index : Nat) (dialog : Dialog) (key value : String) :
    ∃ plan : Plan, plan.Own (Text.trim key) ∧
      ∀ desk : Desk, desk.view.get? (Text.trim key) = row →
        plan.Runs (Text.trim key) desk (desk.requestAdd index dialog key value) := by
  by_cases busy : dialog.phase = .submitting
  · refine ⟨.answering (.refused (.invalidTransition dialog.key dialog.phase.name "add")),
      Plan.answering_own, fun desk _ => ?_⟩
    rw [requestAdd, if_pos busy]
    exact ⟨rfl, rfl, rfl, rfl, rfl⟩
  by_cases blank : Text.trim key = ""
  · refine ⟨⟨.keep, (·.set index ⟨.opened, Text.trim key, value, true, false⟩), [],
      .outcome (.rejected .keyRequired)⟩, ?_, fun desk _ => ?_⟩
    · simp [Plan.Own]
    · constructor <;> simp [requestAdd, busy, blank, Work.ends, RowChange.apply]
  cases checked : Markup.validate value with
  | error problem =>
      refine ⟨⟨.keep, (·.set index ⟨.opened, Text.trim key, value, false, true⟩), [],
        .outcome (.rejected .invalidContent)⟩, ?_, fun desk _ => ?_⟩
      · simp [Plan.Own]
      · constructor <;> simp [requestAdd, busy, blank, checked, Work.ends, RowChange.apply]
  | ok _ =>
      let draft : Dialog := ⟨.opened, Text.trim key, value, false, false⟩
      obtain ⟨plan, own, runs⟩ := submit_plan row index draft
      refine ⟨{ plan with dialogs := fun dialogs => plan.dialogs (dialogs.set index draft) }, own,
        fun desk found => ?_⟩
      have submitted := runs ((Work.start desk).setDialog index draft) rfl found
      simp only [requestAdd, if_neg busy, if_neg blank, checked]
      exact ⟨submitted.view, submitted.dialogs, submitted.screen, submitted.events, submitted.answer⟩

end Desk

/-! Replies. -/

namespace Waiting

/-- What is done when the reply arrives. Nothing needs to be read for it. -/
def plan : Waiting → Reply → Plan
  | save key candidate, .ok =>
      ⟨.store candidate, id,
        [.renderState key .viewing, .renderRow key .success, .showBanner .saveSucceeded],
        .outcome (.completed .success)⟩
  | save key _, .failed _ =>
      ⟨.setState .viewing, id,
        [.renderState key .viewing, .renderRow key .failure, .showBanner .saveFailed],
        .outcome (.completed .failure)⟩
  | add index key value _, .ok =>
      ⟨.put value, (·.set index .empty), [.renderState key .viewing, .showBanner .addSucceeded],
        .outcome (.completed .success)⟩
  | add index key value locked, .failed cause =>
      ⟨if locked then .setState .viewing else .keep,
        fun dialogs => (add index key value locked).settleDialogs dialogs (.failed cause),
        (if locked then [.renderState key .viewing] else []) ++ [.showBanner .addFailed],
        .outcome (.completed .failure)⟩
  | remove key, .ok =>
      ⟨.erase, id, [.removeRow key, .showBanner .deleteSucceeded], .outcome (.completed .success)⟩
  | remove key, .failed _ =>
      ⟨.setState .viewing, id, [.renderState key .viewing, .showBanner .deleteFailed],
        .outcome (.completed .failure)⟩

theorem plan_own (waiting : Waiting) (reply : Reply) : (waiting.plan reply).Own waiting.key := by
  cases waiting with
  | save | remove =>
    cases reply <;> simp [plan, Plan.Own, Event.key?, key, call, Call.key]
  | add index added value locked =>
    cases reply <;> cases locked <;> simp [plan, Plan.Own, Event.key?, key, call, Call.key]

theorem plan_plain {waiting : Waiting} (reply : Reply) (row : waiting.dialog? = none) :
    (waiting.plan reply).Plain := by
  cases waiting with
  | save | remove => cases reply <;> exact ⟨fun _ => rfl, id⟩
  | add => cases row

theorem plan_runs (waiting : Waiting) (reply : Reply) (desk : Desk) :
    (waiting.plan reply).Runs waiting.key desk (desk.deliver waiting reply) := by
  cases waiting with
  | save saved candidate =>
      cases reply <;> constructor <;>
        simp [Desk.deliver, Work.finishSave, Work.ends, plan, RowChange.apply, View.store, key, call,
          Call.key]
  | remove removed =>
      cases reply <;> constructor <;>
        simp [Desk.deliver, Work.finishDelete, Work.ends, plan, RowChange.apply, key, call, Call.key]
  | add index added value locked =>
      cases reply with
      | ok =>
          constructor <;>
            simp [Desk.deliver, Work.finishAdd, View.upsert_freed, Work.ends, plan, RowChange.apply,
              key, call, Call.key]
      | failed cause =>
          cases locked <;> constructor <;>
            simp [Desk.deliver, Work.finishAdd, Work.ends, plan, settleDialogs, RowChange.apply, key,
              call, Call.key]

end Waiting

/-! Steps. -/

/-- What a step tells of its operation's answer. A call is known by the number of the step. -/
def Answer.told (clock : Nat) : Answer → StepAnswer
  | .outcome result => .outcome result
  | .done => .done
  | .refused e => .refused e
  | .waits _ => .inFlight clock

/-- The calls that go out with the answer, under the number of the step. -/
def Answer.sent (clock : Nat) : Answer → List (Nat × Waiting)
  | .waits waiting => [(clock, waiting)]
  | _ => []

def Answer.call? : Answer → Option Call
  | .waits waiting => some waiting.call
  | _ => none

/-- The calls in flight without the one that the step answers. -/
def Step.take (calls : List (Nat × Waiting)) : Step → List (Nat × Waiting)
  | .deliver ticket _ => calls.filter (·.1 != ticket)
  | _ => calls

namespace Session

/-- The key whose row a step is about: that of an action, the trimmed one of an add, and that of the
call in flight for a reply. -/
def key? (session : Session) : Step → Option String
  | .row key _ => some key
  | .add _ key _ => some (Text.trim key)
  | .deliver ticket _ => (session.inFlight.lookup ticket).map Waiting.key
  | _ => none

/-- The step is an add, or the delivery of the reply to one. -/
def Adds (session : Session) : Step → Prop
  | .add .. => True
  | .deliver ticket _ =>
      ∃ index key value locked, session.inFlight.lookup ticket = some (.add index key value locked)
  | _ => False

/-- What a step on the row of the key reads is the same in both sessions. -/
structure Alike (session other : Session) (command : Step) (key : String) : Prop where
  row : other.desk.view.get? key = session.desk.view.get? key
  dialogs : session.Adds command → other.desk.dialogs = session.desk.dialogs
  call : ∀ ticket reply, command = .deliver ticket reply →
    other.inFlight.lookup ticket = session.inFlight.lookup ticket

theorem after_eq (session : Session) (progress : Progress) : session.after progress =
    (⟨progress.work.desk, session.inFlight ++ progress.answer.sent session.clock,
      session.clock + 1⟩,
      ⟨progress.answer.told session.clock, progress.answer.call?, progress.work.events,
        progress.work.log⟩) := by
  obtain ⟨work, answer⟩ := progress
  cases answer <;> simp [after, Answer.sent, Answer.call?, Answer.told]

theorem Alike.refl (session : Session) (command : Step) (key : String) :
    session.Alike session command key := ⟨rfl, fun _ => rfl, fun _ _ _ => rfl⟩

end Session

namespace Plan

/-- The step does what is planned in a session. -/
structure Steps (plan : Plan) (key : String) (session : Session) (command : Step) : Prop where
  view : (session.step command).1.desk.view = plan.change.apply key session.desk.view
  dialogs : (session.step command).1.desk.dialogs = plan.dialogs session.desk.dialogs
  screen : (session.step command).1.desk.screen =
    plan.events.foldl Screen.apply session.desk.screen
  calls : (session.step command).1.inFlight =
    command.take session.inFlight ++ plan.answer.sent session.clock
  clock : (session.step command).1.clock = session.clock + 1
  answer : (session.step command).2.answer = plan.answer.told session.clock
  call : (session.step command).2.call = plan.answer.call?
  events : (session.step command).2.events = plan.events

theorem Runs.steps {plan : Plan} {key : String} {session : Session} {command : Step}
    {progress : Progress} (runs : plan.Runs key session.desk progress)
    (ran : session.step command =
      { session with inFlight := command.take session.inFlight : Session }.after progress) :
    plan.Steps key session command := by
  have ran := ran.trans (Session.after_eq _ progress)
  rw [runs.answer] at ran
  constructor
  case view => rw [ran, ← runs.view]
  case dialogs => rw [ran, ← runs.dialogs]
  case screen => rw [ran, ← runs.screen]
  case events => rw [ran, ← runs.events]
  case calls | clock | answer | call => rw [ran]

end Plan

namespace Session

/-- What a step on a row does follows from what it reads, unless it prompts to delete. Only an add or
the reply to one writes a dialog or appends a row. -/
theorem step_plan (session : Session) {command : Step} {key : String}
    (concerns : session.key? command = some key) (noPrompt : command ≠ .row key .delete) :
    ∃ plan : Plan, plan.Own key ∧ (¬ session.Adds command → plan.Plain) ∧
      ∀ other, session.Alike other command key → plan.Steps key other command := by
  cases command with
  | row name action =>
      obtain rfl : name = key := Option.some.inj concerns
      have other : action ≠ .delete := fun same => noPrompt (congrArg _ same)
      obtain ⟨plan, own, plain, runs⟩ := Desk.dispatch_plan (session.desk.view.get? name) name other
      exact ⟨plan, own, fun _ => plain, fun _ alike => (runs _ alike.row).steps rfl⟩
  | add index name value =>
      obtain rfl : Text.trim name = key := Option.some.inj concerns
      cases found : session.desk.dialogs[index]? with
      | none =>
          refine ⟨.answering .done, Plan.answering_own, fun _ => Plan.answering_plain,
            fun other alike => ?_⟩
          have runs : (Plan.answering .done).Runs (Text.trim name) other.desk
              ⟨.start other.desk, .done⟩ := ⟨rfl, rfl, rfl, rfl, rfl⟩
          apply runs.steps
          simp only [step, withDialog, alike.dialogs trivial, found]
          rfl
      | some dialog =>
          obtain ⟨plan, own, runs⟩ :=
            Desk.requestAdd_plan (session.desk.view.get? (Text.trim name)) index dialog name value
          refine ⟨plan, own, fun row => absurd trivial row, fun other alike => ?_⟩
          apply (runs _ alike.row).steps
          simp only [step, withDialog, alike.dialogs trivial, found]
          rfl
  | deliver ticket reply =>
      obtain ⟨waiting, found, rfl⟩ := Option.map_eq_some_iff.mp concerns
      refine ⟨waiting.plan reply, waiting.plan_own reply, fun row => ?_, fun other alike => ?_⟩
      · apply Waiting.plan_plain
        cases waiting with
        | save | remove => rfl
        | add => exact absurd ⟨_, _, _, _, found⟩ row
      · apply (waiting.plan_runs reply other.desk).steps
        simp only [step, alike.call ticket reply rfl, found]
        rfl
  | openDialog | closeDialog | onScreen | look => cases concerns

end Session

end CatalogueEditor
