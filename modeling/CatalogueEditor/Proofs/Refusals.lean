import CatalogueEditor.Proofs.SessionRun

/-!
What is refused changes nothing. An action is refused that the row of its key does not take, or that has no
row; a dialog that waits for a reply refuses to add and to close. Only an add that is refused because of the
row of its key leaves something behind: the drafts of its dialog, which are kept before the row is looked up.
-/

namespace CatalogueEditor

variable {key value : String} {action : RowAction} {e : EditorError}

theorem Work.perform_accepts (work : Work) : (work.perform key action).answer ≠ .refused e := by
  cases action with
  | save candidate =>
      simp only [perform, requestSave]
      split <;> rintro ⟨⟩
  | edit | delete | confirmDelete | cancelDelete => rintro ⟨⟩

namespace Desk

/-- Why an action on the row of a key is refused, and how the error says it. -/
inductive RefusesAction (desk : Desk) (key : String) (action : RowAction) : EditorError → Prop
  | missing (absent : key ∉ desk.view.keys) : RefusesAction desk key action (.entryNotFound key)
  | barred (entry : Entry) (found : desk.view.get? key = some entry)
      (refused : entry.state.accepts action = false) :
      RefusesAction desk key action (.invalidTransition key entry.state.display action.name)

/-- The row that an add needs is taken: its drafts are in order, but the row is not being viewed. -/
inductive TakenFor (desk : Desk) (key value : String) : RowState → Prop
  | row (named : Text.trim key ≠ "") (valid : Markup.validate value = .ok ()) (entry : Entry)
      (found : desk.view.get? (Text.trim key) = some entry) (inUse : entry.state ≠ .viewing) :
      TakenFor desk key value entry.state

/-- Why an add is refused at once, and how the error says it. -/
inductive RefusesAdd (desk : Desk) (dialog : Dialog) (key value : String) : EditorError → Prop
  | busy (submitting : dialog.phase = .submitting) :
      RefusesAdd desk dialog key value (.invalidTransition dialog.key dialog.phase.name "add")
  | taken (free : dialog.phase ≠ .submitting) (state : RowState) (row : desk.TakenFor key value state) :
      RefusesAdd desk dialog key value (.invalidTransition (Text.trim key) state.display "add")

variable {desk : Desk} {dialog : Dialog} {index : Nat}

/-- The operation is refused, and the desk is left like this. -/
structure Refuses (progress : Progress) (e : EditorError) (left : Desk) : Prop where
  answer : progress.answer = .refused e
  desk : progress.work.desk = left
  silent : progress.work.events = []

theorem dispatch_refuses (refuses : desk.RefusesAction key action e) :
    Refuses (desk.dispatch key action) e desk := by
  cases refuses with
  | missing absent =>
      simp only [dispatch, View.get?_eq_none_iff.mpr absent]
      exact ⟨rfl, rfl, rfl⟩
  | barred entry found refused =>
      simp only [dispatch, found, refused]
      exact ⟨rfl, rfl, rfl⟩

theorem dispatch_refused_iff :
    (desk.dispatch key action).answer = .refused e ↔ desk.RefusesAction key action e := by
  constructor
  · intro refused
    unfold dispatch at refused
    cases found : desk.view.get? key with
    | none =>
        simp only [found, Work.refuses, Answer.refused.injEq] at refused
        exact refused ▸ .missing (View.get?_eq_none_iff.mp found)
    | some entry =>
        simp only [found] at refused
        by_cases accepted : entry.state.accepts action
        · rw [if_pos accepted] at refused
          exact absurd refused (Work.perform_accepts _)
        · simp only [if_neg accepted, Work.refuses, Answer.refused.injEq] at refused
          exact refused ▸ .barred entry found (eq_false_of_ne_true accepted)
  · exact fun refuses => (dispatch_refuses refuses).answer

theorem refuseBusy_refuses (desk : Desk) (dialog : Dialog) (command : String) :
    Refuses (desk.refuseBusy dialog command) (.invalidTransition dialog.key dialog.phase.name command)
      desk :=
  ⟨rfl, rfl, rfl⟩

theorem requestAdd_busy (busy : dialog.phase = .submitting) :
    Refuses (desk.requestAdd index dialog key value)
      (.invalidTransition dialog.key dialog.phase.name "add") desk := by
  rw [requestAdd, if_pos busy]
  exact refuseBusy_refuses desk dialog "add"

/-- The drafts of an add that is refused because of its row stay in its dialog. -/
theorem requestAdd_taken (free : dialog.phase ≠ .submitting) {state : RowState}
    (taken : desk.TakenFor key value state) :
    Refuses (desk.requestAdd index dialog key value)
      (.invalidTransition (Text.trim key) state.display "add")
      { desk with dialogs := desk.dialogs.set index ⟨.opened, Text.trim key, value, false, false⟩ } := by
  obtain ⟨named, valid, entry, found, inUse⟩ := taken
  simp only [requestAdd, if_neg free, if_neg named, valid, submit, Work.setDialog_view, Work.start_desk,
    found, if_neg inUse]
  exact ⟨rfl, rfl, rfl⟩

theorem requestAdd_refused_iff :
    (desk.requestAdd index dialog key value).answer = .refused e ↔ desk.RefusesAdd dialog key value e := by
  constructor
  · intro refused
    by_cases busy : dialog.phase = .submitting
    · rw [(requestAdd_busy busy).answer] at refused
      cases refused
      exact .busy busy
    · simp only [requestAdd, if_neg busy] at refused
      split at refused
      · cases refused
      · rename_i named
        split at refused
        · cases refused
        · rename_i valid
          simp only [submit, Work.setDialog_view, Work.start_desk] at refused
          split at refused
          · cases refused
          · rename_i entry found
            split at refused
            · cases refused
            · rename_i inUse
              cases refused
              exact .taken busy entry.state (.row named valid entry found inUse)
  · intro refuses
    cases refuses with
    | busy submitting => exact (requestAdd_busy submitting).answer
    | taken free state row => exact (requestAdd_taken free row).answer

theorem closeDialog_busy (busy : dialog.phase = .submitting) :
    Refuses (desk.closeDialog index dialog)
      (.invalidTransition dialog.key dialog.phase.name "cancel") desk := by
  rw [closeDialog, if_pos busy]
  exact refuseBusy_refuses desk dialog "cancel"

end Desk

namespace Session

variable {session : Session} {dialog : Dialog} {index : Nat}

/-- The step issues no call and shows nothing, the calls in flight are as they were, and the desk is left
like this. -/
structure Leaves (session : Session) (command : Step) (left : Desk) : Prop where
  desk : (session.step command).1.desk = left
  calls : (session.step command).1.inFlight = session.inFlight
  call : (session.step command).2.call = none
  events : (session.step command).2.events = []

theorem after_refused_iff {progress : Progress} :
    (session.after progress).2.answer = .refused e ↔ progress.answer = .refused e := by
  unfold after
  cases progress.answer <;> simp

theorem leaves_of_refuses {command : Step} {progress : Progress} {left : Desk}
    (ran : session.step command = session.after progress) (refuses : Desk.Refuses progress e left) :
    session.Leaves command left := by
  rw [after, refuses.answer] at ran
  constructor
  · rw [ran, ← refuses.desk]
  · rw [ran]
  · rw [ran]
  · rw [ran, ← refuses.silent]

theorem step_add (found : session.desk.dialogs[index]? = some dialog) :
    session.step (.add index key value) =
      session.after (session.desk.requestAdd index dialog key value) := by
  simp only [step, withDialog, found]

theorem step_closeDialog (found : session.desk.dialogs[index]? = some dialog) :
    session.step (.closeDialog index) = session.after (session.desk.closeDialog index dialog) := by
  simp only [step, withDialog, found]

/-- In any state, reachable or not: an action is refused exactly if there is no row of its key or the row
does not accept it, and then nothing changes; an add is refused at once exactly if its dialog waits for a
reply, when nothing changes, or its row is taken, when the drafts are kept in its dialog and nothing else
changes; a dialog refuses to close exactly if it waits for a reply, and then nothing changes. -/
theorem refusals_change_nothing (session : Session) :
    (∀ key action e,
      ((session.step (.row key action)).2.answer = .refused e ↔
        session.desk.RefusesAction key action e) ∧
      ((session.step (.row key action)).2.answer = .refused e →
        session.Leaves (.row key action) session.desk)) ∧
    ∀ index dialog, session.desk.dialogs[index]? = some dialog →
      (∀ key value e, (session.step (.add index key value)).2.answer = .refused e ↔
        session.desk.RefusesAdd dialog key value e) ∧
      (dialog.phase = .submitting → ∀ key value,
        session.Leaves (.add index key value) session.desk) ∧
      (dialog.phase ≠ .submitting → ∀ key value state, session.desk.TakenFor key value state →
        session.Leaves (.add index key value)
          { session.desk with
            dialogs := session.desk.dialogs.set index
              ⟨.opened, Text.trim key, value, false, false⟩ }) ∧
      ((∃ e, (session.step (.closeDialog index)).2.answer = .refused e) ↔
        dialog.phase = .submitting) ∧
      (dialog.phase = .submitting → session.Leaves (.closeDialog index) session.desk) := by
  constructor
  · intro key action e
    have refused : (session.step (.row key action)).2.answer = .refused e ↔
        session.desk.RefusesAction key action e :=
      after_refused_iff.trans Desk.dispatch_refused_iff
    exact ⟨refused, fun answer => leaves_of_refuses rfl (Desk.dispatch_refuses (refused.mp answer))⟩
  · intro index dialog found
    refine ⟨fun key value e => ?_, fun busy key value => ?_, fun free key value state taken => ?_, ?_,
      fun busy => ?_⟩
    · rw [step_add found]
      exact after_refused_iff.trans Desk.requestAdd_refused_iff
    · exact leaves_of_refuses (step_add found) (Desk.requestAdd_busy busy)
    · exact leaves_of_refuses (step_add found) (Desk.requestAdd_taken free taken)
    · simp only [step_closeDialog found, after_refused_iff]
      constructor
      · rintro ⟨e, refused⟩
        by_contra free
        rw [Desk.closeDialog, if_neg free] at refused
        cases refused
      · exact fun busy => ⟨_, (Desk.closeDialog_busy busy).answer⟩
    · exact leaves_of_refuses (step_closeDialog found) (Desk.closeDialog_busy busy)

/-- One dialog waits for a reply, and the row that the other one would add is being edited. -/
theorem taken_row_refuses_add :
    let session := (ofMessages [("a", "1")] 2).run [.add 0 "b" "2", .row "a" .edit]
    session.desk.dialogs = [⟨.submitting, "b", "2", false, false⟩, .empty] ∧
      (session.step (.add 1 " a " "3")).2.answer =
        .refused (.invalidTransition "a" "editing" "add") ∧
      session.Leaves (.add 1 " a " "3")
        { session.desk with
          dialogs := [⟨.submitting, "b", "2", false, false⟩, ⟨.opened, "a", "3", false, false⟩] } ∧
      session.Leaves (.closeDialog 0) session.desk ∧
      session.Leaves (.row "a" .edit) session.desk := by
  intro session
  have dialogs : session.desk.dialogs = [⟨.submitting, "b", "2", false, false⟩, .empty] := by
    decide +kernel
  have trimmed : Text.trim " a " = "a" := by decide +kernel
  have free : Dialog.empty.phase ≠ .submitting := nofun
  have valid : Markup.validate "3" = .ok () := by
    have fine : (Markup.validate "3").isOk := by decide +kernel
    revert fine
    cases Markup.validate "3" <;> simp [Except.isOk, Except.toBool]
  have taken : session.desk.TakenFor " a " "3" .editing :=
    .row (by decide +kernel) valid ⟨"a", "1", .editing⟩ (by decide +kernel) nofun
  have barred : session.desk.RefusesAction "a" .edit (.invalidTransition "a" "editing" "edit") :=
    .barred ⟨"a", "1", .editing⟩ (by decide +kernel) rfl
  obtain ⟨actions, dialogsRefuse⟩ := refusals_change_nothing session
  obtain ⟨_, _, _, _, close⟩ := dialogsRefuse 0 _ (by rw [dialogs]; rfl)
  obtain ⟨adds, _, leaves, _⟩ := dialogsRefuse 1 .empty (by rw [dialogs]; rfl)
  refine ⟨dialogs, (adds " a " "3" _).mpr ?_, ?_, close rfl, ?_⟩
  · exact trimmed ▸ Desk.RefusesAdd.taken free .editing taken
  · have kept := leaves free " a " "3" .editing taken
    rwa [dialogs, trimmed] at kept
  · exact (actions "a" .edit _).2 ((actions "a" .edit _).1.mpr barred)

end Session

end CatalogueEditor
