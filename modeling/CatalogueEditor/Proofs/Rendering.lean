import CatalogueEditor.Proofs.ScreenUpdates
import CatalogueEditor.Proofs.SingleDialog

/-!
What is rendered is what is stored. Each operation shows the state of a row after it has changed it;
nothing reads the screen back, so that the two agree is kept by every operation for itself. Said for
one key at a time: the row and what is shown of it change together or not at all. A key is shown that
has no row only after a reply whose row has gone in the meantime, which one dialog rules out.
-/

namespace CatalogueEditor

/-- What a step can do to the row of a key, if it has one, and to what is rendered for the key. An
orphan is a reply whose row has gone. -/
inductive Repaint (orphan : Prop) (row rendered : Option RowState) :
    Option RowState → Option RowState → Prop
  | kept : Repaint orphan row rendered row rendered
  -- An indicator is rendered, and with it a row that is being viewed if there was none.
  | marked (present : row ≠ none) :
      Repaint orphan row rendered row (some (rendered.getD .viewing))
  | painted (state : RowState) : Repaint orphan row rendered (some state) (some state)
  | haunted (state : RowState) (gone : orphan) : Repaint orphan row rendered none (some state)
  | removed : Repaint orphan row rendered none none

namespace Repaint

variable {orphan : Prop} {row rendered row' rendered' : Option RowState}

theorem mirrors (repaint : Repaint orphan row rendered row' rendered')
    (same : ∀ state, row = some state → rendered.getD .viewing = state) :
    ∀ state, row' = some state → rendered'.getD .viewing = state := by
  intro state later
  cases repaint with
  | kept | marked => exact same state later
  | painted => exact Option.some.inj later
  | haunted | removed => cases later

theorem present (repaint : Repaint orphan row rendered row' rendered') (cared : ¬ orphan)
    (same : rendered ≠ none → row ≠ none) : rendered' ≠ none → row' ≠ none := by
  intro later
  cases repaint with
  | kept => exact same later
  | marked there => exact there
  | painted => exact nofun
  | haunted state gone => exact absurd gone cared
  | removed => exact absurd rfl later

theorem set (state : RowState) (there : row ≠ none ∨ orphan) :
    Repaint orphan row rendered (row.map fun _ => state) (some state) := by
  cases row with
  | some old => exact .painted state
  | none => exact .haunted state (there.resolve_left (absurd rfl))

end Repaint

namespace Desk

/-- What an operation does to the rows and their rendering, key by key. -/
def Repaints (before after : Desk) (orphan : Prop) : Prop :=
  ∀ key, Repaint orphan (before.view.state? key) (before.screen.state? key)
    (after.view.state? key) (after.screen.state? key)

/-- Every row is seen in its state. -/
def Mirrors (desk : Desk) : Prop :=
  ∀ key state, desk.view.state? key = some state → desk.screen.shown key = state

/-- Only rows are rendered. -/
def Bare (desk : Desk) : Prop :=
  ∀ key, desk.screen.state? key ≠ none → desk.view.state? key ≠ none

variable {before after : Desk} {orphan : Prop} {key : String}

theorem Repaints.mirrors (repaints : before.Repaints after orphan) (mirrors : before.Mirrors) :
    after.Mirrors :=
  fun key => (repaints key).mirrors (mirrors key)

theorem Repaints.bare (repaints : before.Repaints after orphan) (cared : ¬ orphan)
    (bare : before.Bare) : after.Bare :=
  fun key => (repaints key).present cared (bare key)

theorem Repaints.refl (desk : Desk) : desk.Repaints desk orphan := fun _ => .kept

/-- An operation on one key leaves the others as they are. -/
theorem Repaints.at (key : String)
    (here : Repaint orphan (before.view.state? key) (before.screen.state? key)
      (after.view.state? key) (after.screen.state? key))
    (rows : ∀ other, other ≠ key → after.view.state? other = before.view.state? other)
    (rendered : ∀ other, other ≠ key → after.screen.state? other = before.screen.state? other) :
    before.Repaints after orphan := by
  intro other
  by_cases same : other = key
  · exact same ▸ here
  · rw [rows other same, rendered other same]
    exact .kept

/-- The state of a row is changed and rendered. -/
theorem Repaints.set (key : String) (state : RowState) (there : before.view.state? key ≠ none ∨ orphan)
    (rows : ∀ other, after.view.state? other =
      if other = key then (before.view.state? key).map fun _ => state
      else before.view.state? other)
    (rendered : ∀ other, after.screen.state? other =
      if other = key then some state else before.screen.state? other) :
    before.Repaints after orphan := by
  apply Repaints.at key
  · rw [rows, if_pos rfl, rendered, if_pos rfl]
    exact .set state there
  · intro other apart
    rw [rows, if_neg apart]
  · intro other apart
    rw [rendered, if_neg apart]

end Desk

/-! Operations on a row. -/
namespace Work

variable (work : Work) {key : String} {orphan : Prop}

section Row
variable (present : work.desk.view.state? key ≠ none)
include present

theorem edit_repaints : work.desk.Repaints (work.edit key).work.desk orphan := by
  apply Desk.Repaints.set key _ (.inl present) fun _ => View.state?_setState _
  intro other
  simp [edit, ends]

theorem requestSave_repaints (candidate : String) :
    work.desk.Repaints (work.requestSave key candidate).work.desk orphan := by
  unfold requestSave
  split
  · apply Desk.Repaints.at key
    · simp only [ends, render_screen, render_view, say_desk, Screen.state?_showBanner,
        Screen.state?_renderRow, ↓reduceIte]
      exact .marked present
    · intro other _
      rfl
    · intro other apart
      simp [ends, apart]
  · apply Desk.Repaints.set key _ (.inl present) fun _ => View.state?_setState _
    intro other
    simp [awaits]

theorem cancelDelete_repaints : work.desk.Repaints (work.cancelDelete key).work.desk orphan := by
  apply Desk.Repaints.set key _ (.inl present) fun _ => View.state?_setState _
  intro other
  simp [cancelDelete, ends]

theorem requestDelete_repaints : work.desk.Repaints (work.requestDelete key).work.desk orphan := by
  apply Desk.Repaints.set key _ (.inl present) fun _ => View.state?_setState _
  intro other
  simp [requestDelete, awaits]

omit present in
/-- The rows that are displaced are those that wait for confirmation under another key. -/
theorem mem_displacedBy {view : View} {other : String} (distinct : view.keys.Nodup) :
    other ∈ displacedBy key view ↔
      other ≠ key ∧ view.state? other = some .confirmingDelete := by
  simp only [displacedBy, List.mem_map, List.mem_filter, Bool.and_eq_true, bne_iff_ne, beq_iff_eq]
  constructor
  · rintro ⟨entry, ⟨member, apart, waits⟩, rfl⟩
    exact ⟨apart, waits ▸ View.state?_of_mem distinct member⟩
  · rintro ⟨apart, row⟩
    obtain ⟨entry, found, waits⟩ := Option.map_eq_some_iff.mp row
    have here : entry.key = other := by simpa using List.find?_some found
    exact ⟨entry, ⟨List.mem_of_find?_eq_some found, here ▸ apart, waits⟩, here⟩

theorem promptDelete_repaints (distinct : work.desk.view.keys.Nodup) :
    work.desk.Repaints (work.promptDelete key).work.desk orphan := by
  intro other
  simp only [promptDelete, ends, render_view, tell_view, changeView_view, setState_view,
    render_screen, Screen.state?_renderState, tell_state?, changeView_screen, setState_screen,
    View.state?_displace, View.state?_setState, mem_displacedBy distinct]
  by_cases same : other = key
  · obtain ⟨state, row⟩ := Option.ne_none_iff_exists'.mp present
    simp only [same, row, ↓reduceIte, Option.map_some, ne_eq, not_true, false_and]
    exact .painted .confirmingDelete
  · simp only [same, ↓reduceIte, ne_eq, not_false_eq_true, true_and]
    cases row : work.desk.view.state? other with
    | none => exact .kept
    | some state =>
        by_cases waits : state = .confirmingDelete
        · simp only [waits, ↓reduceIte, Option.map_some]
          exact .painted .viewing
        · simp only [waits, ↓reduceIte, Option.map_some, Option.some.injEq]
          exact .kept

theorem perform_repaints (action : RowAction) (distinct : work.desk.view.keys.Nodup) :
    work.desk.Repaints (work.perform key action).work.desk orphan := by
  cases action with
  | edit => exact edit_repaints work present
  | save candidate => exact requestSave_repaints work present candidate
  | delete => exact promptDelete_repaints work present distinct
  | confirmDelete => exact requestDelete_repaints work present
  | cancelDelete => exact cancelDelete_repaints work present

end Row

/-! Replies. The row of the key may have gone. -/
section Replies
variable (gone : work.desk.view.state? key = none → orphan)

include gone in
theorem finishSave_repaints (candidate : String) (reply : Reply) :
    work.desk.Repaints (work.finishSave key candidate reply).work.desk orphan := by
  have there := (ne_or_eq (work.desk.view.state? key) none).imp_right gone
  cases reply with
  | ok =>
      apply Desk.Repaints.set key .viewing there fun _ => View.state?_store candidate
      intro other
      by_cases same : other = key <;> simp [finishSave, ends, same]
  | failed cause =>
      apply Desk.Repaints.set key .viewing there
      · intro other
        simp only [finishSave, ends, render_view, sayFailure_desk, setState_view]
        exact View.state?_setState .viewing
      · intro other
        by_cases same : other = key <;> simp [finishSave, ends, same]

include gone in
theorem finishDelete_repaints (reply : Reply) (distinct : work.desk.view.keys.Nodup) :
    work.desk.Repaints (work.finishDelete key reply).work.desk orphan := by
  cases reply with
  | ok =>
      apply Desk.Repaints.at key
      · simp only [finishDelete, ends, say_desk, render_view, changeView_view, render_screen,
          changeView_screen, View.state?_erase distinct, Screen.state?_showBanner,
          Screen.state?_removeRow, ↓reduceIte]
        exact .removed
      · intro other apart
        simp [finishDelete, ends, View.state?_erase distinct, apart]
      · intro other apart
        simp [finishDelete, ends, apart]
  | failed cause =>
      apply Desk.Repaints.set key .viewing ((ne_or_eq (work.desk.view.state? key) none).imp_right gone)
      · intro other
        simp only [finishDelete, ends, render_view, sayFailure_desk, setState_view]
        exact View.state?_setState .viewing
      · intro other
        simp [finishDelete, ends]

theorem finishAdd_repaints (index : Nat) (value : String) (locked : Bool) (reply : Reply)
    (gone : locked = true → work.desk.view.state? key = none → orphan) :
    work.desk.Repaints (work.finishAdd index key value locked reply).work.desk orphan := by
  cases reply with
  | ok =>
      apply Desk.Repaints.at key
      · simp only [finishAdd, setState_view, View.upsert_freed, ends, say_desk, render_view,
          setDialog_view, changeView_view, render_screen, setDialog_screen, changeView_screen,
          setState_screen, View.state?_put, Screen.state?_showBanner, Screen.state?_renderState,
          ↓reduceIte]
        exact .painted .viewing
      · intro other apart
        simp [finishAdd, ends, View.upsert_freed, apart]
      · intro other apart
        simp [finishAdd, ends, View.upsert_freed, apart]
  | failed cause =>
      cases locked with
      | false =>
          intro other
          simp only [finishAdd, ends, Bool.false_eq_true, ↓reduceIte, render_view, setDialog_view,
            sayFailure_desk, render_screen, setDialog_screen, Screen.state?_showBanner]
          exact .kept
      | true =>
          apply Desk.Repaints.set key .viewing
          · exact (ne_or_eq _ _).imp_right (gone rfl)
          · intro other
            simp [finishAdd, ends]
          · intro other
            simp [finishAdd, ends]

end Replies
end Work

namespace Desk

variable {desk : Desk} {orphan : Prop}

theorem dispatch_repaints (key : String) (action : RowAction) (distinct : desk.view.keys.Nodup) :
    desk.Repaints (desk.dispatch key action).work.desk orphan := by
  unfold dispatch
  cases found : desk.view.get? key with
  | none => exact .refl desk
  | some entry =>
      have present : desk.view.state? key ≠ none := by simp [View.state?, found]
      simp only
      split
      · apply Work.perform_repaints ((Work.start desk).say _ _)
        · exact present
        · exact distinct
      · exact .refl desk

theorem submit_repaints (index : Nat) (draft : Dialog) {work : Work}
    (view : work.desk.view = desk.view) (screen : work.desk.screen = desk.screen) :
    desk.Repaints (submit work index draft).work.desk orphan := by
  unfold submit
  rw [view]
  cases found : desk.view.get? draft.key with
  | none =>
      intro other
      simp only [Work.awaits, Work.setDialog_view, Work.setDialog_screen, view, screen]
      exact .kept
  | some entry =>
      simp only
      split
      · have present : desk.view.state? draft.key ≠ none := by simp [View.state?, found]
        apply Repaints.set draft.key .saving (.inl present)
        · intro other
          simp [Work.awaits, view]
        · intro other
          simp [Work.awaits, screen]
      · intro other
        simp only [Work.refuses, Work.say_desk, view, screen]
        exact .kept

theorem requestAdd_repaints (index : Nat) (dialog : Dialog) (key value : String) :
    desk.Repaints (desk.requestAdd index dialog key value).work.desk orphan := by
  simp only [requestAdd]
  split
  · exact .refl desk
  · split
    · exact fun _ => .kept
    · split
      · exact fun _ => .kept
      · exact submit_repaints index _ rfl rfl

theorem openDialog_repaints (index : Nat) (dialog : Dialog) :
    desk.Repaints (desk.openDialog index dialog).work.desk orphan := by
  unfold openDialog
  split <;> exact fun _ => .kept

theorem closeDialog_repaints (index : Nat) (dialog : Dialog) :
    desk.Repaints (desk.closeDialog index dialog).work.desk orphan := by
  unfold closeDialog
  split <;> exact fun _ => .kept

theorem deliver_repaints (waiting : Waiting) (reply : Reply) (distinct : desk.view.keys.Nodup)
    (gone : waiting.lock? ≠ none → desk.view.state? waiting.key = none → orphan) :
    desk.Repaints (desk.deliver waiting reply).work.desk orphan := by
  cases waiting with
  | save key candidate =>
      exact Work.finishSave_repaints (.start desk) (gone nofun) candidate reply
  | remove key =>
      exact Work.finishDelete_repaints (.start desk) (gone nofun) reply distinct
  | add index key value locked =>
      apply Work.finishAdd_repaints (.start desk) index value locked reply
      intro held
      exact gone (by simp [Waiting.lock?, held])

end Desk

/-! Runs. -/

/-- The step delivers the reply to a call that had locked a row, and the row has gone. -/
def Core.Orphans (core : Core) : Step → Prop
  | .deliver ticket _ =>
      ∃ waiting, (ticket, waiting) ∈ core.inFlight ∧ waiting.lock? ≠ none ∧
        core.view.state? waiting.key = none
  | _ => False

theorem Core.Locked.cared {core : Core} (locked : core.Locked) (command : Step) :
    ¬ core.Orphans command := by
  cases command with
  | deliver ticket reply =>
      rintro ⟨waiting, member, lock, gone⟩
      obtain ⟨state, held⟩ := Option.ne_none_iff_exists'.mp lock
      cases gone.symm.trans (locked.held ticket waiting state member held)
  | _ => exact id

/-- The page does nothing to the rendered rows by itself. -/
def Step.SparesRows (command : Step) : Prop :=
  ∀ event, command = .onScreen event → event.key? = none

namespace Session

variable {session : Session}

theorem after_desk (progress : Progress) : (session.after progress).1.desk = progress.work.desk := by
  unfold after
  cases progress.answer <;> rfl

theorem withDialog_repaints {orphan : Prop} (index : Nat) {act : Dialog → Progress}
    (repaints : ∀ dialog, session.desk.Repaints (act dialog).work.desk orphan) :
    session.desk.Repaints (session.withDialog index act).1.desk orphan := by
  unfold withDialog
  split
  · exact .refl _
  · rw [after_desk]
    exact repaints _

theorem step_repaints {command : Step} (distinct : session.core.Distinct)
    (spares : command.SparesRows) :
    session.desk.Repaints (session.step command).1.desk (session.core.Orphans command) := by
  cases command with
  | row key action =>
      simp only [step, after_desk]
      exact Desk.dispatch_repaints key action distinct
  | openDialog index => exact withDialog_repaints index (Desk.openDialog_repaints index)
  | closeDialog index => exact withDialog_repaints index (Desk.closeDialog_repaints index)
  | add index key value =>
      exact withDialog_repaints index fun dialog =>
        Desk.requestAdd_repaints index dialog key value
  | deliver ticket reply =>
      cases found : session.inFlight.lookup ticket with
      | none =>
          simp only [step, found]
          exact .refl _
      | some waiting =>
          simp only [step, found, after_desk]
          apply Desk.deliver_repaints waiting reply distinct
          intro lock gone
          exact ⟨waiting, mem_of_lookup found, lock, gone⟩
  | onScreen event =>
      intro key
      have same : (session.desk.screen.apply event).state? key = session.desk.screen.state? key :=
        Screen.state?_page (spares event rfl)
      simp only [step, Work.render_view, Work.render_screen, Work.start_desk, same]
      exact .kept
  | look => exact .refl _

theorem run_induction (Keeps : Session → Prop) {Allowed : Step → Prop}
    (keeps : ∀ session command, Allowed command → Keeps session → Keeps (session.step command).1)
    (steps : List Step) (allowed : ∀ command ∈ steps, Allowed command) (start : Keeps session) :
    Keeps (session.run steps) := by
  induction steps generalizing session with
  | nil => exact start
  | cons command rest ih =>
      rw [List.forall_mem_cons] at allowed
      exact ih allowed.2 (keeps session command allowed.1 start)

theorem run_mirrors (messages : List (String × String)) (dialogs : Nat) (steps : List Step)
    (spares : ∀ command ∈ steps, command.SparesRows) :
    ((ofMessages messages dialogs).run steps).desk.Mirrors := by
  have kept : ((ofMessages messages dialogs).run steps).core.Distinct ∧
      ((ofMessages messages dialogs).run steps).desk.Mirrors := by
    apply run_induction (fun session => session.core.Distinct ∧ session.desk.Mirrors) ?_ steps
      spares
    · constructor
      · exact ofMessages_distinct messages dialogs
      · intro key state row
        exact ((View.ofMessages_fresh messages).viewing row).symm
    · rintro session command spares ⟨distinct, mirrors⟩
      exact ⟨(session.step_effect command).distinct distinct,
        (step_repaints distinct spares).mirrors mirrors⟩
  exact kept.2

theorem run_bare (messages : List (String × String)) (steps : List Step)
    (spares : ∀ command ∈ steps, command.SparesRows) :
    ((ofMessages messages 1).run steps).desk.Bare := by
  have kept : ((ofMessages messages 1).run steps).core.Guarded ∧
      ((ofMessages messages 1).run steps).desk.Bare := by
    apply run_induction (fun session => session.core.Guarded ∧ session.desk.Bare) ?_ steps spares
    · constructor
      · exact ofMessages_guarded messages
      · intro key rendered
        exact absurd rfl rendered
    · rintro session command spares ⟨guarded, bare⟩
      exact ⟨(session.step_effect command).guarded guarded,
        (step_repaints guarded.distinct spares).bare (guarded.locked.cared command) bare⟩
  exact kept.2

/-- However a session runs, with any number of dialogs, every row of its view is seen in its state,
if the page does nothing to rendered rows by itself. With one dialog nothing else is rendered. -/
theorem rendered_as_stored (messages : List (String × String)) (dialogs : Nat) (steps : List Step)
    (spares : ∀ command ∈ steps, command.SparesRows) :
    let session := (ofMessages messages dialogs).run steps
    (∀ entry ∈ session.desk.view.entries, session.desk.screen.shown entry.key = entry.state) ∧
    (dialogs = 1 → ∀ key, (session.desk.screen.row? key).isSome →
      key ∈ session.desk.view.keys) := by
  intro session
  constructor
  · intro entry member
    have distinct : session.core.Distinct :=
      run_keeps (fun _ _ _ effect => effect.distinct) _ steps
        (ofMessages_distinct messages dialogs)
    exact run_mirrors messages dialogs steps spares _ _ (View.state?_of_mem distinct member)
  · rintro rfl key rendered
    have present : session.desk.view.state? key ≠ none := by
      apply run_bare messages steps spares
      obtain ⟨row, found⟩ := Option.isSome_iff_exists.mp rendered
      simp [Screen.state?, session, found]
    exact not_not.mp (mt View.state?_eq_none_iff.mpr present)

theorem displaced_row_seen_viewing :
    let steps : List Step := [.row "a" .delete, .row "b" .delete, .onScreen .hideBanners]
    let session := (ofMessages [("a", "1"), ("b", "2")] 1).run steps
    (∀ command ∈ steps, command.SparesRows) ∧
    (∀ entry ∈ session.desk.view.entries, session.desk.screen.shown entry.key = entry.state) ∧
    session.desk.screen.shown "a" = .viewing ∧
    ∀ key, (session.desk.screen.row? key).isSome → key = "a" ∨ key = "b" := by
  intro steps session
  have spares : ∀ command ∈ steps, command.SparesRows := by
    simp [steps, Step.SparesRows, Event.key?]
  obtain ⟨seen, rows⟩ := rendered_as_stored [("a", "1"), ("b", "2")] 1 steps spares
  refine ⟨spares, seen, by decide, fun key rendered => ?_⟩
  have keys : session.desk.view.keys = ["a", "b"] := by decide
  have member : key ∈ session.desk.view.keys := rows rfl key rendered
  simpa [keys] using member

end Session
end CatalogueEditor
