import CatalogueEditor.Endpoint.Call
import CatalogueEditor.Markup.Fragment
import CatalogueEditor.Session.Desk

/-!
The operations on a desk. An operation that needs the endpoint runs in two parts: the first ends
with a call and with what has to be kept until the reply, the second takes the reply. Between the
two parts the row is locked by its state, and any other operation may run.
-/

namespace CatalogueEditor

/-- An operation that waits for the reply to its call. An add also keeps the number of its dialog,
and whether it found a row of its key and locked it. -/
inductive Waiting
  | save (key candidate : String)
  | add (dialog : Nat) (key value : String) (locked : Bool)
  | remove (key : String)
deriving DecidableEq

def Waiting.call : Waiting → Call
  | save key candidate => .save key candidate
  | add _ key value _ => .add key value
  | remove key => .remove key

/-- Why an operation ended without a call although it was allowed. -/
inductive Rejection
  | keyRequired
  | invalidContent
deriving DecidableEq

inductive Outcome
  | transitioned (state : RowState)
  | rejected (reason : Rejection)
  | completed (kind : FeedbackKind)
deriving DecidableEq

inductive Answer
  | outcome (outcome : Outcome)
  | done
  | refused (e : EditorError)
  | waits (waiting : Waiting)
deriving DecidableEq

structure Progress where
  work : Work
  answer : Answer
deriving DecidableEq

namespace Work

def ends (work : Work) (outcome : Outcome) : Progress := ⟨work, .outcome outcome⟩

def refuses (work : Work) (e : EditorError) : Progress := ⟨work, .refused e⟩

def awaits (work : Work) (waiting : Waiting) : Progress := ⟨work, .waits waiting⟩

def edit (work : Work) (key : String) : Progress :=
  (((work.setState key .editing).render (.clearRow key)).render (.renderState key .editing)).ends
    (.transitioned .editing)

/-- Content that is refused leaves the row being edited, so that saving can be tried again. -/
def requestSave (work : Work) (key candidate : String) : Progress :=
  match Markup.validate candidate with
  | .error e =>
      (((work.say .warn ("Rejected invalid content for '" ++ key ++ "': " ++ e.message)).render
        (.renderRow key .warning)).render (.showBanner .invalidContent)).ends
          (.rejected .invalidContent)
  | .ok () =>
      ((work.setState key .saving).render (.renderState key .saving)).awaits (.save key candidate)

/-- The other rows whose deletion waits for confirmation. -/
def displacedBy (key : String) (view : View) : List String :=
  (view.entries.filter fun entry => entry.key != key && entry.state == .confirmingDelete).map
    Entry.key

/-- There is one confirmation at a time: the other rows that wait for one are viewed again. -/
def displace (key : String) (view : View) : View :=
  ⟨view.entries.map fun entry =>
    if entry.key ≠ key ∧ entry.state = .confirmingDelete then { entry with state := .viewing }
    else entry⟩

def promptDelete (work : Work) (key : String) : Progress :=
  -- Who is displaced is settled before any row moves.
  let displaced := displacedBy key work.desk.view
  let moved := (work.setState key .confirmingDelete).changeView (displace key)
  let told := displaced.foldl (fun work other =>
    (work.say .debug
      ("Delete confirmation moved from '" ++ other ++ "' to '" ++ key ++ "'")).render
        (.renderState other .viewing)) moved
  (told.render (.renderState key .confirmingDelete)).ends (.transitioned .confirmingDelete)

def cancelDelete (work : Work) (key : String) : Progress :=
  ((work.setState key .viewing).render (.renderState key .viewing)).ends (.transitioned .viewing)

def requestDelete (work : Work) (key : String) : Progress :=
  ((work.setState key .deleting).render (.renderState key .deleting)).awaits (.remove key)

/-- What an accepted action does to the row of the key. -/
def perform (work : Work) (key : String) : RowAction → Progress
  | .edit => work.edit key
  | .save candidate => work.requestSave key candidate
  | .delete => work.promptDelete key
  | .confirmDelete => work.requestDelete key
  | .cancelDelete => work.cancelDelete key

/-- A failed request is logged as a warning if it was refused, and else as an error. -/
def sayFailure (work : Work) (key : String) (cause : RequestError) : Work :=
  if cause.isExpected then
    work.say .warn ("Request for '" ++ key ++ "' rejected: " ++ cause.message)
  else work.say .error ("Request for '" ++ key ++ "' failed: " ++ cause.message)

def finishSave (work : Work) (key candidate : String) : Reply → Progress
  | .ok =>
      (((((work.changeView
        (·.modify key fun entry => { entry with value := candidate, state := .viewing })).render
          (.renderState key .viewing)).say .info ("Saved message '" ++ key ++ "'")).render
            (.renderRow key .success)).render (.showBanner .saveSucceeded)).ends (.completed .success)
  | .failed cause =>
      (((((work.setState key .viewing).render (.renderState key .viewing)).sayFailure key cause).render
        (.renderRow key .failure)).render (.showBanner .saveFailed)).ends (.completed .failure)

def finishDelete (work : Work) (key : String) : Reply → Progress
  | .ok =>
      ((((work.changeView (·.erase key)).render (.removeRow key)).render
        (.showBanner .deleteSucceeded)).say .info ("Deleted message '" ++ key ++ "'")).ends
          (.completed .success)
  | .failed cause =>
      ((((work.sayFailure key cause).setState key .viewing).render (.renderState key .viewing)).render
        (.showBanner .deleteFailed)).ends (.completed .failure)

/-- The reply to an add. On success the row, whatever it was, is viewed with the new value, and the
dialog is emptied; on failure a row that was locked is unlocked, and the dialog keeps its drafts. -/
def finishAdd (work : Work) (index : Nat) (key value : String) (locked : Bool) :
    Reply → Progress
  | .ok =>
      -- Freeing comes first, because only a row that is viewed takes a new value.
      let freed := work.setState key .viewing
      match freed.desk.view.upsert key value with
      | .error e => freed.refuses e
      | .ok (view, appended) =>
          let told := ((((freed.changeView fun _ => view).render (.renderState key .viewing)).setDialog
            index .empty).render (.showBanner .addSucceeded))
          let text :=
            if appended then "Added message '" ++ key ++ "'"
            else "Updated message '" ++ key ++ "' through add"
          (told.say .info text).ends (.completed .success)
  | .failed cause =>
      let told := work.sayFailure key cause
      let freed :=
        if locked then (told.setState key .viewing).render (.renderState key .viewing) else told
      let kept := (freed.desk.dialogs[index]?).getD .empty
      ((freed.setDialog index { kept with phase := .opened }).render (.showBanner .addFailed)).ends
        (.completed .failure)

end Work

namespace Desk

/-- An action on the row of a key, which the row must exist and accept. -/
def dispatch (desk : Desk) (key : String) (action : RowAction) : Progress :=
  let work := (Work.start desk).say .debug ("Row '" ++ key ++ "': " ++ action.name)
  match desk.view.get? key with
  | none => work.refuses (.entryNotFound key)
  | some entry =>
      if entry.state.accepts action then work.perform key action
      else
        (work.say .warn ("Rejected " ++ action.name ++ " on '" ++ key ++ "' while " ++
          entry.state.display)).refuses
            (.invalidTransition key entry.state.display action.name)

def openDialog (desk : Desk) (index : Nat) (dialog : Dialog) : Progress :=
  let work := Work.start desk
  if dialog.phase = .closed then
    ⟨work.setDialog index { dialog with phase := .opened }, .done⟩
  else ⟨work, .done⟩

/-- A dialog that is submitting takes no other command. -/
def refuseBusy (desk : Desk) (dialog : Dialog) (command : String) : Progress :=
  ((Work.start desk).say .warn ("Rejected " ++ command ++ " while the add dialog is " ++
    dialog.phase.name)).refuses (.invalidTransition dialog.key dialog.phase.name command)

def closeDialog (desk : Desk) (index : Nat) (dialog : Dialog) : Progress :=
  if dialog.phase = .submitting then desk.refuseBusy dialog "cancel"
  else ⟨(Work.start desk).setDialog index .empty, .done⟩

/-- Submits a dialog with drafts that passed its checks: a row of the key must be viewed, and is
locked until the reply. -/
def submit (work : Work) (index : Nat) (draft : Dialog) : Progress :=
  let submitted := work.setDialog index { draft with phase := .submitting }
  match work.desk.view.get? draft.key with
  | none => submitted.awaits (.add index draft.key draft.value false)
  | some entry =>
      if entry.state = .viewing then
        ((submitted.setState draft.key .saving).render (.renderState draft.key .saving)).awaits
          (.add index draft.key draft.value true)
      else
        (work.say .warn ("Rejected add of '" ++ draft.key ++ "' while the row is " ++
          entry.state.display)).refuses
            (.invalidTransition draft.key entry.state.display "add")

/-- Adds a message through a dialog. The key is trimmed and must not be empty, the value must be
valid; otherwise the dialog stays open with a hint. -/
def requestAdd (desk : Desk) (index : Nat) (dialog : Dialog) (key value : String) : Progress :=
  if dialog.phase = .submitting then desk.refuseBusy dialog "add"
  else
    let key := Text.trim key
    let draft : Dialog := ⟨.opened, key, value, false, false⟩
    -- The drafts are kept whatever the checks say.
    let work := (Work.start desk).setDialog index draft
    if key = "" then
      ((work.say .warn "Rejected add: key is required").setDialog index
        { draft with keyError := true }).ends (.rejected .keyRequired)
    else
      match Markup.validate value with
      | .error e =>
          ((work.say .warn ("Rejected add of '" ++ key ++ "': invalid content " ++
            e.message)).setDialog index { draft with contentError := true }).ends
              (.rejected .invalidContent)
      | .ok () => submit work index draft

def deliver (desk : Desk) (waiting : Waiting) (reply : Reply) : Progress :=
  let work := Work.start desk
  match waiting with
  | .save key candidate => work.finishSave key candidate reply
  | .add index key value locked => work.finishAdd index key value locked reply
  | .remove key => work.finishDelete key reply

end Desk

end CatalogueEditor
