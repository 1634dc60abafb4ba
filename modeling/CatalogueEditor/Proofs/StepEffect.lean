import CatalogueEditor.Proofs.ViewUpdates
import CatalogueEditor.Session.Steps

/-!
What a step of a session can do to the view, the dialogs and the calls in flight. The screen and the
log are left out: operations write them and never read them back. Each effect is listed once with
the conditions under which the step has it; what sessions keep is proved by cases on this list.
-/

namespace CatalogueEditor

/-- All of a session but its screen. -/
structure Core where
  view : View
  dialogs : List Dialog
  inFlight : List (Nat × Waiting)
  clock : Nat

namespace Core

/-- One step later, with nothing else changed. -/
def tick (core : Core) : Core := { core with clock := core.clock + 1 }

/-- A call goes out; its ticket is the number of the step. -/
def issue (core : Core) (waiting : Waiting) : Core :=
  { core.tick with inFlight := core.inFlight ++ [(core.clock, waiting)] }

def setView (core : Core) (view : View) : Core := { core with view }

def setDialog (core : Core) (index : Nat) (dialog : Dialog) : Core :=
  { core with dialogs := core.dialogs.set index dialog }

def Accepts (core : Core) (key : String) (action : RowAction) : Prop :=
  ∃ state, core.view.state? key = some state ∧ state.accepts action = true

end Core

def Session.core (session : Session) : Core :=
  ⟨session.desk.view, session.desk.dialogs, session.inFlight, session.clock⟩

namespace Waiting

def key (waiting : Waiting) : String := waiting.call.key

/-- The view after the reply: what was acknowledged is done, and the row that the operation locked
is free. -/
def settle (view : View) : Waiting → Reply → View
  | save key candidate, .ok => view.store key candidate
  | save key _, .failed _ => view.setState key .viewing
  | add _ key value _, .ok => view.put key value
  | add _ key _ locked, .failed _ => if locked then view.setState key .viewing else view
  | remove key, .ok => view.erase key
  | remove key, .failed _ => view.setState key .viewing

/-- The dialogs after the reply. The dialog of an add is emptied or takes commands again. -/
def settleDialogs (dialogs : List Dialog) : Waiting → Reply → List Dialog
  | add index _ _ _, .ok => dialogs.set index .empty
  | add index _ _ _, .failed _ =>
      dialogs.set index { (dialogs[index]?).getD .empty with phase := .opened }
  | _, _ => dialogs

end Waiting

/-! Effects. -/

/-- Why a step changes nothing but the time. -/
def Core.Idles (core : Core) : Step → Prop
  | .row key action =>
      ¬ core.Accepts key action ∨
        ∃ candidate problem, action = .save candidate ∧ Markup.validate candidate = .error problem
  | .openDialog index => ∀ dialog, core.dialogs[index]? = some dialog → dialog.phase ≠ .closed
  | .closeDialog index => ∀ dialog, core.dialogs[index]? = some dialog → dialog.phase = .submitting
  | .add index _ _ => ∀ dialog, core.dialogs[index]? = some dialog → dialog.phase = .submitting
  | .deliver ticket _ => core.inFlight.lookup ticket = none
  | .onScreen _ => True
  | .look => True

/-- What a step can make of a dialog by itself, without a call. -/
inductive Drafts (core : Core) (index : Nat) (dialog : Dialog) : Step → Dialog → Prop
  | opened (closed : dialog.phase = .closed) :
      Drafts core index dialog (.openDialog index) { dialog with phase := .opened }
  | closed (free : dialog.phase ≠ .submitting) :
      Drafts core index dialog (.closeDialog index) .empty
  | keyRequired (key value : String) (free : dialog.phase ≠ .submitting)
      (blank : Text.trim key = "") :
      Drafts core index dialog (.add index key value) ⟨.opened, "", value, true, false⟩
  | invalidContent (key value : String) (free : dialog.phase ≠ .submitting)
      (named : Text.trim key ≠ "") (problem : Markup.MarkupError)
      (invalid : Markup.validate value = .error problem) :
      Drafts core index dialog (.add index key value)
        ⟨.opened, Text.trim key, value, false, true⟩
  | rowTaken (key value : String) (free : dialog.phase ≠ .submitting)
      (named : Text.trim key ≠ "") (valid : Markup.validate value = .ok ()) (state : RowState)
      (found : core.view.state? (Text.trim key) = some state) (taken : state ≠ .viewing) :
      Drafts core index dialog (.add index key value)
        ⟨.opened, Text.trim key, value, false, false⟩

inductive Effect (before : Core) : Step → Core → Prop
  | idle (command : Step) (why : before.Idles command) : Effect before command before.tick
  | edit (key : String) (row : before.view.state? key = some .viewing) :
      Effect before (.row key .edit) (before.tick.setView (before.view.setState key .editing))
  | save (key candidate : String) (row : before.view.state? key = some .editing)
      (valid : Markup.validate candidate = .ok ()) :
      Effect before (.row key (.save candidate))
        ((before.issue (.save key candidate)).setView (before.view.setState key .saving))
  | prompt (key : String) (state : RowState) (row : before.view.state? key = some state)
      (ready : state = .viewing ∨ state = .editing) :
      Effect before (.row key .delete)
        (before.tick.setView (Work.displace key (before.view.setState key .confirmingDelete)))
  | confirm (key : String) (row : before.view.state? key = some .confirmingDelete) :
      Effect before (.row key .confirmDelete)
        ((before.issue (.remove key)).setView (before.view.setState key .deleting))
  | cancel (key : String) (row : before.view.state? key = some .confirmingDelete) :
      Effect before (.row key .cancelDelete)
        (before.tick.setView (before.view.setState key .viewing))
  | draft (command : Step) (index : Nat) (dialog next : Dialog)
      (found : before.dialogs[index]? = some dialog)
      (drafted : Drafts before index dialog command next) :
      Effect before command (before.tick.setDialog index next)
  | addNew (index : Nat) (key value : String) (dialog : Dialog)
      (found : before.dialogs[index]? = some dialog) (free : dialog.phase ≠ .submitting)
      (named : Text.trim key ≠ "") (valid : Markup.validate value = .ok ())
      (absent : before.view.state? (Text.trim key) = none) :
      Effect before (.add index key value)
        ((before.issue (.add index (Text.trim key) value false)).setDialog index
          ⟨.submitting, Text.trim key, value, false, false⟩)
  | addLocked (index : Nat) (key value : String) (dialog : Dialog)
      (found : before.dialogs[index]? = some dialog) (free : dialog.phase ≠ .submitting)
      (named : Text.trim key ≠ "") (valid : Markup.validate value = .ok ())
      (row : before.view.state? (Text.trim key) = some .viewing) :
      Effect before (.add index key value)
        (((before.issue (.add index (Text.trim key) value true)).setDialog index
          ⟨.submitting, Text.trim key, value, false, false⟩).setView
            (before.view.setState (Text.trim key) .saving))
  | deliver (ticket : Nat) (reply : Reply) (waiting : Waiting)
      (found : before.inFlight.lookup ticket = some waiting) :
      Effect before (.deliver ticket reply)
        ⟨waiting.settle before.view reply, waiting.settleDialogs before.dialogs reply,
          before.inFlight.filter (·.1 != ticket), before.clock + 1⟩

theorem Effect.delivered {before after : Core} {ticket : Nat} {reply : Reply}
    (effect : Effect before (.deliver ticket reply) after) :
    (before.inFlight.lookup ticket = none ∧ after = before.tick) ∨
      ∃ waiting, before.inFlight.lookup ticket = some waiting ∧
        after = ⟨waiting.settle before.view reply, waiting.settleDialogs before.dialogs reply,
          before.inFlight.filter (·.1 != ticket), before.clock + 1⟩ := by
  cases effect with
  | idle _ missing => exact .inl ⟨missing, rfl⟩
  | draft _ index dialog next found drafted => cases drafted
  | deliver _ _ waiting found => exact .inr ⟨waiting, found, rfl⟩

/-! Rendering and logging leave the view and the dialogs alone. -/
namespace Work

variable (work : Work)

@[simp] theorem render_view (event : Event) : (work.render event).desk.view = work.desk.view := rfl

@[simp] theorem render_dialogs (event : Event) :
    (work.render event).desk.dialogs = work.desk.dialogs := rfl

@[simp] theorem say_desk (level : Level) (text : String) :
    (work.say level text).desk = work.desk := rfl

@[simp] theorem sayFailure_desk (key : String) (cause : RequestError) :
    (work.sayFailure key cause).desk = work.desk := by
  unfold sayFailure
  split <;> rfl

@[simp] theorem changeView_view (change : View → View) :
    (work.changeView change).desk.view = change work.desk.view := rfl

@[simp] theorem changeView_dialogs (change : View → View) :
    (work.changeView change).desk.dialogs = work.desk.dialogs := rfl

@[simp] theorem setState_view (key : String) (state : RowState) :
    (work.setState key state).desk.view = work.desk.view.setState key state := rfl

@[simp] theorem setState_dialogs (key : String) (state : RowState) :
    (work.setState key state).desk.dialogs = work.desk.dialogs := rfl

@[simp] theorem setDialog_view (index : Nat) (dialog : Dialog) :
    (work.setDialog index dialog).desk.view = work.desk.view := rfl

@[simp] theorem setDialog_dialogs (index : Nat) (dialog : Dialog) :
    (work.setDialog index dialog).desk.dialogs = work.desk.dialogs.set index dialog := rfl

@[simp] theorem start_desk (desk : Desk) : (start desk).desk = desk := rfl

theorem tell_view (level : Level) (text : String → String) (event : String → Event)
    (others : List String) :
    (others.foldl (fun work other => (work.say level (text other)).render (event other))
      work).desk.view = work.desk.view := by
  induction others generalizing work with
  | nil => rfl
  | cons other rest ih => exact ih _

theorem tell_dialogs (level : Level) (text : String → String) (event : String → Event)
    (others : List String) :
    (others.foldl (fun work other => (work.say level (text other)).render (event other))
      work).desk.dialogs = work.desk.dialogs := by
  induction others generalizing work with
  | nil => rfl
  | cons other rest ih => exact ih _

end Work

/-! Each step has one of the effects. -/
namespace Session

variable (session : Session)

theorem after_core (progress : Progress) : (session.after progress).1.core =
    ⟨progress.work.desk.view, progress.work.desk.dialogs,
      match progress.answer with
      | .waits waiting => session.inFlight ++ [(session.clock, waiting)]
      | _ => session.inFlight,
      session.clock + 1⟩ := by
  unfold after
  cases progress.answer <;> rfl

theorem perform_effect (key : String) (action : RowAction) (entry : Entry) (work : Work)
    (desk : work.desk = session.desk) (found : session.desk.view.get? key = some entry)
    (accepted : entry.state.accepts action = true) :
    Effect session.core (.row key action) (session.after (work.perform key action)).1.core := by
  have row : session.core.view.state? key = some entry.state := by
    simp [core, View.state?, found]
  obtain ⟨_, events, log⟩ := work
  cases desk
  rw [after_core]
  cases action with
  | edit =>
      have state : entry.state = .viewing := by simpa [RowState.accepts] using accepted
      exact Effect.edit key (state ▸ row)
  | save candidate =>
      have state : entry.state = .editing := by simpa [RowState.accepts] using accepted
      simp only [Work.perform, Work.requestSave]
      split
      · rename_i problem invalid
        exact Effect.idle _ (.inr ⟨candidate, problem, rfl, invalid⟩)
      · rename_i valid
        exact Effect.save key candidate (state ▸ row) valid
  | delete =>
      have ready : entry.state = .viewing ∨ entry.state = .editing := by
        simpa [RowState.accepts] using accepted
      simp only [Work.perform, Work.promptDelete, Work.ends, Work.render_view, Work.render_dialogs,
        Work.tell_view, Work.tell_dialogs]
      exact Effect.prompt key entry.state row ready
  | confirmDelete =>
      have state : entry.state = .confirmingDelete := by simpa [RowState.accepts] using accepted
      exact Effect.confirm key (state ▸ row)
  | cancelDelete =>
      have state : entry.state = .confirmingDelete := by simpa [RowState.accepts] using accepted
      exact Effect.cancel key (state ▸ row)

theorem dispatch_effect (key : String) (action : RowAction) :
    Effect session.core (.row key action)
      (session.after (session.desk.dispatch key action)).1.core := by
  unfold Desk.dispatch
  cases found : session.desk.view.get? key with
  | none =>
      have missing : ¬ session.core.Accepts key action := by
        rintro ⟨state, row, _⟩
        simp [core, View.state?, found] at row
      exact Effect.idle _ (.inl missing)
  | some entry =>
      simp only
      split
      · rename_i accepted
        exact perform_effect session key action entry _ rfl found accepted
      · rename_i refused
        have missing : ¬ session.core.Accepts key action := by
          rintro ⟨state, row, accepted⟩
          simp only [core, View.state?, found, Option.map_some, Option.some.injEq] at row
          exact refused (row ▸ accepted)
        exact Effect.idle _ (.inl missing)

theorem submit_effect (index : Nat) (dialog : Dialog) (key value : String) (work : Work)
    (found : session.desk.dialogs[index]? = some dialog) (free : dialog.phase ≠ .submitting)
    (named : Text.trim key ≠ "") (valid : Markup.validate value = .ok ())
    (view : work.desk.view = session.desk.view)
    (dialogs : work.desk.dialogs =
      session.desk.dialogs.set index ⟨.opened, Text.trim key, value, false, false⟩) :
    Effect session.core (.add index key value)
      (session.after
        (Desk.submit work index ⟨.opened, Text.trim key, value, false, false⟩)).1.core := by
  rw [after_core]
  unfold Desk.submit
  simp only [view]
  cases row : session.desk.view.get? (Text.trim key) with
  | none =>
      have absent : session.core.view.state? (Text.trim key) = none := by
        simp [core, View.state?, row]
      simp only [Work.awaits, Work.setDialog_view, Work.setDialog_dialogs, view, dialogs,
        List.set_set]
      exact Effect.addNew index key value dialog found free named valid absent
  | some entry =>
      have state : session.core.view.state? (Text.trim key) = some entry.state := by
        simp [core, View.state?, row]
      simp only
      split
      · rename_i viewed
        simp only [Work.awaits, Work.render_view, Work.render_dialogs, Work.setState_view,
          Work.setState_dialogs, Work.setDialog_view, Work.setDialog_dialogs, view, dialogs,
          List.set_set]
        exact Effect.addLocked index key value dialog found free named valid (viewed ▸ state)
      · rename_i taken
        simp only [Work.refuses, Work.say_desk, view, dialogs]
        exact Effect.draft _ index dialog _ found
          (Drafts.rowTaken key value free named valid entry.state state taken)

theorem requestAdd_effect (index : Nat) (dialog : Dialog) (key value : String)
    (found : session.desk.dialogs[index]? = some dialog) :
    Effect session.core (.add index key value)
      (session.after (session.desk.requestAdd index dialog key value)).1.core := by
  by_cases free : dialog.phase = .submitting
  · have busy : session.core.Idles (.add index key value) := by
      intro other same
      rwa [Option.some.inj (same.symm.trans found)]
    rw [Desk.requestAdd, if_pos free]
    exact Effect.idle _ busy
  · simp only [Desk.requestAdd, if_neg free]
    by_cases blank : Text.trim key = ""
    · have drafted : Drafts session.core index dialog (.add index key value) _ :=
        .keyRequired key value free blank
      rw [if_pos blank, after_core]
      simp only [Work.ends, Work.say_desk, Work.setDialog_view, Work.setDialog_dialogs,
        Work.start_desk, List.set_set, blank]
      exact Effect.draft _ index dialog _ found drafted
    · rw [if_neg blank]
      cases checked : Markup.validate value with
      | error problem =>
          have drafted : Drafts session.core index dialog (.add index key value) _ :=
            .invalidContent key value free blank problem checked
          simp only [after_core, Work.ends, Work.say_desk, Work.setDialog_view,
            Work.setDialog_dialogs, Work.start_desk, List.set_set]
          exact Effect.draft _ index dialog _ found drafted
      | ok _ =>
          exact submit_effect session index dialog key value _ found free blank checked rfl rfl

theorem finish_core (waiting : Waiting) (reply : Reply) (rest : List (Nat × Waiting)) :
    (({ session with inFlight := rest } : Session).after
      (session.desk.deliver waiting reply)).1.core =
    ⟨waiting.settle session.desk.view reply, waiting.settleDialogs session.desk.dialogs reply, rest,
      session.clock + 1⟩ := by
  rw [after_core]
  cases waiting with
  | save key candidate =>
      cases reply <;> simp [Desk.deliver, Work.finishSave, Work.ends, Waiting.settle,
        Waiting.settleDialogs, View.store]
  | remove key =>
      cases reply <;> simp [Desk.deliver, Work.finishDelete, Work.ends, Waiting.settle,
        Waiting.settleDialogs]
  | add index key value locked =>
      cases reply with
      | ok =>
          simp [Desk.deliver, Work.finishAdd, View.upsert_freed, Work.ends, Waiting.settle,
            Waiting.settleDialogs]
      | failed cause =>
          cases locked <;> simp [Desk.deliver, Work.finishAdd, Work.ends, Waiting.settle,
            Waiting.settleDialogs]

theorem deliver_effect (ticket : Nat) (reply : Reply) :
    Effect session.core (.deliver ticket reply) (session.step (.deliver ticket reply)).1.core := by
  simp only [step]
  cases found : session.inFlight.lookup ticket with
  | none => exact Effect.idle _ found
  | some waiting =>
      simp only [finish_core]
      exact Effect.deliver ticket reply waiting found

theorem withDialog_effect (index : Nat) (run : Dialog → Progress) (command : Step)
    (idles : session.desk.dialogs[index]? = none → session.core.Idles command)
    (runs : ∀ dialog, session.desk.dialogs[index]? = some dialog →
      Effect session.core command (session.after (run dialog)).1.core) :
    Effect session.core command (session.withDialog index run).1.core := by
  unfold withDialog
  split
  · rename_i missing
    exact Effect.idle _ (idles missing)
  · rename_i dialog found
    exact runs dialog found

theorem openDialog_effect (index : Nat) (dialog : Dialog)
    (found : session.desk.dialogs[index]? = some dialog) :
    Effect session.core (.openDialog index)
      (session.after (session.desk.openDialog index dialog)).1.core := by
  unfold Desk.openDialog
  split
  · rename_i closed
    exact Effect.draft _ index dialog _ found (.opened closed)
  · rename_i inUse
    apply Effect.idle
    intro other same
    rwa [Option.some.inj (same.symm.trans found)]

theorem closeDialog_effect (index : Nat) (dialog : Dialog)
    (found : session.desk.dialogs[index]? = some dialog) :
    Effect session.core (.closeDialog index)
      (session.after (session.desk.closeDialog index dialog)).1.core := by
  unfold Desk.closeDialog
  split
  · rename_i busy
    apply Effect.idle
    intro other same
    rwa [Option.some.inj (same.symm.trans found)]
  · rename_i free
    exact Effect.draft _ index dialog _ found (.closed free)

theorem step_effect (command : Step) :
    Effect session.core command (session.step command).1.core := by
  cases command with
  | row key action => exact dispatch_effect session key action
  | openDialog index =>
      refine withDialog_effect session index _ _ (fun missing dialog found => ?_) fun dialog =>
        openDialog_effect session index dialog
      exact absurd (found.symm.trans missing) (by simp)
  | closeDialog index =>
      refine withDialog_effect session index _ _ (fun missing dialog found => ?_) fun dialog =>
        closeDialog_effect session index dialog
      exact absurd (found.symm.trans missing) (by simp)
  | add index key value =>
      refine withDialog_effect session index _ _ (fun missing dialog found => ?_) fun dialog =>
        requestAdd_effect session index dialog key value
      exact absurd (found.symm.trans missing) (by simp)
  | deliver ticket reply => exact deliver_effect session ticket reply
  | onScreen event => exact Effect.idle _ trivial
  | look => exact Effect.idle _ trivial

end Session

end CatalogueEditor
