import CatalogueEditor.Proofs.DeletePrompt

/-!
Feedback tells the outcome. An operation that ends with a reply shows the banner of its outcome, a save
with content that is refused shows the one for that, and no other step touches the banner. A row is marked
by the outcomes of its saves and unmarked when it is edited or deleted; no step marks another row. So what a
row shows while it is being edited is never that an earlier save succeeded or failed.
-/

namespace CatalogueEditor

namespace Operation

/-- The banner of an operation that was completed. -/
def succeeded : Operation → Banner
  | save => .saveSucceeded
  | add => .addSucceeded
  | remove => .deleteSucceeded

/-- The banner of an operation that failed. -/
def failed : Operation → Banner
  | save => .saveFailed
  | add => .addFailed
  | remove => .deleteFailed

end Operation

namespace Screen

/-- The indicator that is rendered for a key. -/
def indicator? (screen : Screen) (key : String) : Option Indicator :=
  (screen.row? key).bind RenderedRow.indicator

variable {screen : Screen} {key other : String}

theorem indicator?_apply (event : Event) : (screen.apply event).indicator? other =
    if event.key? = some other then (event.paint (screen.row? other)).bind RenderedRow.indicator
    else screen.indicator? other := by
  rw [indicator?, row?_apply]
  split <;> rfl

@[simp] theorem indicator?_renderState (state : RowState) :
    (screen.apply (.renderState key state)).indicator? other = screen.indicator? other := by
  rw [indicator?_apply]
  split
  · rw [indicator?, Event.paint]
    cases screen.row? other <;> rfl
  · rfl

@[simp] theorem indicator?_renderRow (kind : FeedbackKind) :
    (screen.apply (.renderRow key kind)).indicator? other =
      if other = key then some kind.indicator else screen.indicator? other := by
  simp [indicator?_apply, Event.key?, Event.paint, eq_comm (a := other)]

@[simp] theorem indicator?_clearRow : (screen.apply (.clearRow key)).indicator? other =
    if other = key then none else screen.indicator? other := by
  simp only [indicator?_apply, Event.key?, Event.paint, Option.some.injEq, eq_comm (a := other)]
  cases screen.row? other <;> rfl

@[simp] theorem indicator?_removeRow : (screen.apply (.removeRow key)).indicator? other =
    if other = key then none else screen.indicator? other := by
  simp [indicator?_apply, Event.key?, Event.paint, eq_comm (a := other)]

@[simp] theorem indicator?_showBanner (banner : Banner) :
    (screen.apply (.showBanner banner)).indicator? other = screen.indicator? other := rfl

/-- What is rendered for a row leaves the banner. -/
theorem banner_row {event : Event} {key : String} (row : event.key? = some key) :
    (screen.apply event).banner = screen.banner := by
  cases event with
  | clearRow cleared =>
      simp only [apply]
      split <;> rfl
  | renderState | renderRow | removeRow => rfl
  | showBanner | hideBanners | dismiss => cases row

theorem banner_states (state : RowState) (keys : List String) :
    ((keys.map (Event.renderState · state)).foldl apply screen).banner = screen.banner := by
  induction keys generalizing screen with
  | nil => rfl
  | cons key rest ih => exact ih.trans (banner_row rfl)

theorem indicator?_states (state : RowState) (keys : List String) :
    ((keys.map (Event.renderState · state)).foldl apply screen).indicator? other =
      screen.indicator? other := by
  induction keys generalizing screen with
  | nil => rfl
  | cons key rest ih => exact ih.trans (indicator?_renderState state)

end Screen

/-- An operation shows this banner, if it is one, and leaves this indicator in the row of this key, if it
marks one. All other feedback stays. -/
structure Desk.Shows (before after : Desk) (banner : Option Banner)
    (mark : Option (String × Option Indicator)) : Prop where
  banner : after.screen.banner = banner.or before.screen.banner
  marked : ∀ key indicator, mark = some (key, indicator) → after.screen.indicator? key = indicator
  unmarked : ∀ key, (∀ indicator, mark ≠ some (key, indicator)) →
    after.screen.indicator? key = before.screen.indicator? key

namespace Desk.Shows

variable {before after : Desk} {banner : Option Banner}

theorem unmarking (shown : after.screen.banner = banner.or before.screen.banner)
    (indicators : ∀ key, after.screen.indicator? key = before.screen.indicator? key) :
    before.Shows after banner none :=
  ⟨shown, nofun, fun key _ => indicators key⟩

theorem marking {row : String} {indicator : Option Indicator}
    (shown : after.screen.banner = banner.or before.screen.banner)
    (indicators : ∀ key, after.screen.indicator? key =
      if key = row then indicator else before.screen.indicator? key) :
    before.Shows after banner (some (row, indicator)) where
  banner := shown
  marked := by
    rintro key indicator ⟨⟩
    rw [indicators, if_pos rfl]
  unmarked := by
    intro key apart
    rw [indicators, if_neg]
    rintro rfl
    exact apart indicator rfl

theorem refl (desk : Desk) : desk.Shows desk none none := unmarking rfl fun _ => rfl

end Desk.Shows

/-! Operations on a row. -/
namespace Work

variable (work : Work) (key : String)

theorem edit_shows : work.desk.Shows (work.edit key).work.desk none (some (key, none)) := by
  apply Desk.Shows.marking
  · exact (Screen.banner_row rfl).trans (Screen.banner_row rfl)
  · intro other
    simp [edit, ends]

theorem requestSave_shows {candidate : String} (valid : Markup.validate candidate = .ok ()) :
    work.desk.Shows (work.requestSave key candidate).work.desk none none := by
  rw [requestSave, valid]
  exact .unmarking (Screen.banner_row rfl) fun _ => Screen.indicator?_renderState _

theorem requestSave_rejects {candidate : String} {problem : Markup.MarkupError}
    (invalid : Markup.validate candidate = .error problem) :
    work.desk.Shows (work.requestSave key candidate).work.desk (some .invalidContent)
      (some (key, some FeedbackKind.warning.indicator)) := by
  rw [requestSave, invalid]
  exact .marking rfl fun _ => Screen.indicator?_renderRow _

theorem promptDelete_shows : work.desk.Shows (work.promptDelete key).work.desk none none := by
  apply Desk.Shows.unmarking
  · rw [promptDelete_screen, Screen.banner_row rfl, Screen.banner_states, Option.none_or]
  · intro other
    rw [promptDelete_screen, Screen.indicator?_renderState, Screen.indicator?_states]

theorem requestDelete_shows : work.desk.Shows (work.requestDelete key).work.desk none none :=
  .unmarking (Screen.banner_row rfl) fun _ => Screen.indicator?_renderState _

theorem cancelDelete_shows : work.desk.Shows (work.cancelDelete key).work.desk none none :=
  .unmarking (Screen.banner_row rfl) fun _ => Screen.indicator?_renderState _

/-- Why an accepted action shows what it shows. -/
inductive Signals (key : String) :
    RowAction → Answer → Option Banner → Option (String × Option Indicator) → Prop
  | edited : Signals key .edit (.outcome (.transitioned .editing)) none (some (key, none))
  | rejected (candidate : String) :
      Signals key (.save candidate) (.outcome (.rejected .invalidContent)) (some .invalidContent)
        (some (key, some FeedbackKind.warning.indicator))
  | quiet (action : RowAction) (answer : Answer)
      (unedited : action = .edit → answer ≠ .outcome (.transitioned .editing))
      (unrejected : answer ≠ .outcome (.rejected .invalidContent)) : Signals key action answer none none

theorem perform_signals (action : RowAction) :
    ∃ banner mark, Signals key action (work.perform key action).answer banner mark ∧
      work.desk.Shows (work.perform key action).work.desk banner mark := by
  cases action with
  | edit => exact ⟨_, _, .edited, work.edit_shows key⟩
  | save candidate =>
      cases checked : Markup.validate candidate with
      | error problem =>
          have rejects := work.requestSave_rejects key checked
          have answer : (work.perform key (.save candidate)).answer =
              .outcome (.rejected .invalidContent) := by
            simp only [perform, requestSave, checked, ends]
          exact ⟨_, _, answer ▸ .rejected candidate, rejects⟩
      | ok _ =>
          have answer : (work.perform key (.save candidate)).answer = .waits (.save key candidate) := by
            simp only [perform, requestSave, checked, awaits]
          exact ⟨_, _, .quiet _ _ (by simp) (by simp [answer]), work.requestSave_shows key checked⟩
  | delete => refine ⟨_, _, .quiet _ _ ?_ ?_, work.promptDelete_shows key⟩ <;> rintro ⟨⟩
  | confirmDelete => refine ⟨_, _, .quiet _ _ ?_ ?_, work.requestDelete_shows key⟩ <;> rintro ⟨⟩
  | cancelDelete => refine ⟨_, _, .quiet _ _ ?_ ?_, work.cancelDelete_shows key⟩ <;> rintro ⟨⟩

end Work

/-! Replies. -/
namespace Waiting

/-- The banner of the outcome. -/
def banner (waiting : Waiting) : Reply → Banner
  | .ok => waiting.call.operation.succeeded
  | .failed _ => waiting.call.operation.failed

/-- A save marks its row with its outcome. The mark of a row goes with the row. -/
def mark : Waiting → Reply → Option (String × Option Indicator)
  | save key _, reply => some (key, some reply.kind.indicator)
  | remove key, .ok => some (key, none)
  | _, _ => none

end Waiting

namespace Desk

variable (desk : Desk)

theorem deliver_shows (waiting : Waiting) (reply : Reply) :
    desk.Shows (desk.deliver waiting reply).work.desk (some (waiting.banner reply)) (waiting.mark reply) := by
  cases waiting with
  | save key candidate =>
      cases reply <;> apply Desk.Shows.marking rfl <;> intro other <;>
        simp [deliver, Work.finishSave, Work.ends, Reply.kind]
  | remove key =>
      cases reply with
      | ok =>
          apply Desk.Shows.marking rfl
          intro other
          simp [deliver, Work.finishDelete, Work.ends]
      | failed cause =>
          apply Desk.Shows.unmarking rfl
          intro other
          simp [deliver, Work.finishDelete, Work.ends]
  | add index key value locked =>
      cases reply with
      | ok =>
          apply Desk.Shows.unmarking
          · simp [deliver, Work.finishAdd, View.upsert_freed, Work.ends]
            rfl
          · intro other
            simp [deliver, Work.finishAdd, View.upsert_freed, Work.ends]
      | failed cause =>
          apply Desk.Shows.unmarking rfl
          intro other
          cases locked <;> simp [deliver, Work.finishAdd, Work.ends]

theorem deliver_dropped (key : String) :
    (desk.deliver (.remove key) .ok).work.desk.screen.row? key = none := by
  simp [deliver, Work.finishDelete, Work.ends, Screen.row?_apply, Event.key?, Event.paint]

theorem dispatch_signals (key : String) (action : RowAction) :
    ∃ banner mark, Work.Signals key action (desk.dispatch key action).answer banner mark ∧
      desk.Shows (desk.dispatch key action).work.desk banner mark := by
  unfold dispatch
  split
  · exact ⟨none, none, .quiet _ _ nofun nofun, .refl desk⟩
  · split
    · exact Work.perform_signals _ key action
    · exact ⟨none, none, .quiet _ _ nofun nofun, .refl desk⟩

theorem requestAdd_shows (index : Nat) (dialog : Dialog) (key value : String) :
    desk.Shows (desk.requestAdd index dialog key value).work.desk none none := by
  simp only [requestAdd]
  split
  · exact .refl desk
  · split
    · exact .unmarking rfl fun _ => rfl
    · split
      · exact .unmarking rfl fun _ => rfl
      · unfold submit
        split
        · exact .unmarking rfl fun _ => rfl
        · split
          · exact .unmarking (Screen.banner_row rfl) fun _ => Screen.indicator?_renderState _
          · exact .unmarking rfl fun _ => rfl

theorem openDialog_shows (index : Nat) (dialog : Dialog) :
    desk.Shows (desk.openDialog index dialog).work.desk none none := by
  unfold openDialog
  split <;> exact .unmarking rfl fun _ => rfl

theorem closeDialog_shows (index : Nat) (dialog : Dialog) :
    desk.Shows (desk.closeDialog index dialog).work.desk none none := by
  unfold closeDialog
  split <;> exact .unmarking rfl fun _ => rfl

end Desk

/-! Steps. -/
namespace Session

variable {session : Session} {command : Step}

/-- The step ends an operation for which the banner stands. -/
inductive Announces (session : Session) : Step → Banner → Prop
  | succeeded (ticket : Nat) (reply : Reply) (waiting : Waiting)
      (found : session.inFlight.lookup ticket = some waiting)
      (answer : (session.step (.deliver ticket reply)).2.answer = .outcome (.completed .success)) :
      Announces session (.deliver ticket reply) waiting.call.operation.succeeded
  | failed (ticket : Nat) (reply : Reply) (waiting : Waiting)
      (found : session.inFlight.lookup ticket = some waiting)
      (answer : (session.step (.deliver ticket reply)).2.answer = .outcome (.completed .failure)) :
      Announces session (.deliver ticket reply) waiting.call.operation.failed
  | rejected (key candidate : String)
      (answer : (session.step (.row key (.save candidate))).2.answer =
        .outcome (.rejected .invalidContent)) :
      Announces session (.row key (.save candidate)) .invalidContent

/-- The step gives the row of the key this indicator, or takes away the one that it has. -/
inductive Marks (session : Session) : Step → String → Option Indicator → Prop
  | saved (ticket : Nat) (reply : Reply) (key candidate : String) (kind : FeedbackKind)
      (found : session.inFlight.lookup ticket = some (.save key candidate))
      (answer : (session.step (.deliver ticket reply)).2.answer = .outcome (.completed kind)) :
      Marks session (.deliver ticket reply) key (some kind.indicator)
  | rejected (key candidate : String)
      (answer : (session.step (.row key (.save candidate))).2.answer =
        .outcome (.rejected .invalidContent)) :
      Marks session (.row key (.save candidate)) key (some FeedbackKind.warning.indicator)
  | edited (key : String)
      (answer : (session.step (.row key .edit)).2.answer = .outcome (.transitioned .editing)) :
      Marks session (.row key .edit) key none
  | deleted (ticket : Nat) (reply : Reply) (key : String)
      (found : session.inFlight.lookup ticket = some (.remove key))
      (answer : (session.step (.deliver ticket reply)).2.answer = .outcome (.completed .success)) :
      Marks session (.deliver ticket reply) key none

/-- The feedback after the step tells what the step did. -/
structure Tells (session : Session) (command : Step) : Prop where
  ended : ∀ kind, (session.step command).2.answer = .outcome (.completed kind) →
    ∃ banner, session.Announces command banner
  announced : ∀ banner, session.Announces command banner →
    (session.step command).1.desk.screen.banner = some banner
  unannounced : (∀ banner, ¬ session.Announces command banner) →
    (session.step command).1.desk.screen.banner = session.desk.screen.banner
  marked : ∀ key indicator, session.Marks command key indicator →
    (session.step command).1.desk.screen.indicator? key = indicator
  unmarked : ∀ key, (∀ indicator, ¬ session.Marks command key indicator) →
    (session.step command).1.desk.screen.indicator? key = session.desk.screen.indicator? key
  dropped : ∀ ticket reply key, command = .deliver ticket reply →
    session.inFlight.lookup ticket = some (.remove key) →
      (session.step command).2.answer = .outcome (.completed .success) →
        (session.step command).1.desk.screen.row? key = none

/-- The step announces this banner, if it is one, and nothing else, and marks as it is said here. -/
structure Explains (session : Session) (command : Step) (banner : Option Banner)
    (mark : Option (String × Option Indicator)) : Prop where
  banner : ∀ shown, session.Announces command shown ↔ banner = some shown
  mark : ∀ key indicator, session.Marks command key indicator ↔ mark = some (key, indicator)

theorem Explains.nothing (silent : ∀ shown, ¬ session.Announces command shown)
    (unmarked : ∀ key indicator, ¬ session.Marks command key indicator) :
    session.Explains command none none := by
  constructor
  · intro shown
    simp [silent shown]
  · intro key indicator
    simp [unmarked key indicator]

section Delivery
variable {ticket : Nat} {waiting : Waiting} (found : session.inFlight.lookup ticket = some waiting)
include found

theorem deliver_explains (reply : Reply) :
    session.Explains (.deliver ticket reply) (some (waiting.banner reply)) (waiting.mark reply) := by
  have completed := step_deliver found reply
  constructor
  · intro shown
    constructor
    · rintro (⟨_, _, other, lookup, answer⟩ | ⟨_, _, other, lookup, answer⟩)
      · cases found.symm.trans lookup
        cases reply with
        | ok => rfl
        | failed cause => cases completed.symm.trans answer
      · cases found.symm.trans lookup
        cases reply with
        | ok => cases completed.symm.trans answer
        | failed cause => rfl
    · rintro ⟨⟩
      cases reply with
      | ok => exact .succeeded ticket .ok waiting found completed
      | failed cause => exact .failed ticket (.failed cause) waiting found completed
  · intro key indicator
    constructor
    · rintro (⟨_, _, _, candidate, kind, lookup, answer⟩ | _ | _ | ⟨_, _, _, lookup, answer⟩)
      · cases found.symm.trans lookup
        cases completed.symm.trans answer
        rfl
      · cases found.symm.trans lookup
        cases reply with
        | ok => rfl
        | failed cause => cases completed.symm.trans answer
    · intro mark
      cases waiting with
      | save saved candidate =>
          cases mark
          exact .saved ticket reply key candidate reply.kind found completed
      | remove removed =>
          cases reply with
          | ok =>
              cases mark
              exact .deleted ticket .ok key found completed
          | failed cause => cases mark
      | add => cases mark

theorem deliver_desk (reply : Reply) :
    (session.step (.deliver ticket reply)).1.desk = (session.desk.deliver waiting reply).work.desk := by
  simp only [step, found, after_desk]

end Delivery

theorem after_outcome_iff {progress : Progress} {outcome : Outcome} :
    (session.after progress).2.answer = .outcome outcome ↔ progress.answer = .outcome outcome := by
  unfold after
  cases progress.answer <;> simp

theorem row_explains {key : String} {action : RowAction} {banner : Option Banner}
    {mark : Option (String × Option Indicator)}
    (signals : Work.Signals key action (session.desk.dispatch key action).answer banner mark) :
    session.Explains (.row key action) banner mark := by
  have told : ∀ outcome, (session.step (.row key action)).2.answer = .outcome outcome ↔
      (session.desk.dispatch key action).answer = .outcome outcome := fun _ => after_outcome_iff
  generalize (session.desk.dispatch key action).answer = answer at signals told
  cases signals with
  | edited =>
      refine ⟨fun shown => ⟨?_, nofun⟩, fun other indicator => ⟨?_, ?_⟩⟩
      · rintro ⟨⟩
      · rintro ⟨⟩
        rfl
      · rintro ⟨⟩
        exact .edited key ((told _).mpr rfl)
  | rejected candidate =>
      refine ⟨fun shown => ⟨?_, ?_⟩, fun other indicator => ⟨?_, ?_⟩⟩
      · rintro ⟨⟩
        rfl
      · rintro ⟨⟩
        exact .rejected key candidate ((told _).mpr rfl)
      · rintro ⟨⟩
        rfl
      · rintro ⟨⟩
        exact .rejected key candidate ((told _).mpr rfl)
  | quiet _ _ unedited unrejected =>
      apply Explains.nothing
      · rintro shown ⟨⟩
        rename_i candidate rejected
        exact absurd ((told _).mp rejected) unrejected
      · rintro other indicator ⟨⟩
        · rename_i candidate rejected
          exact absurd ((told _).mp rejected) unrejected
        · rename_i edited
          exact absurd ((told _).mp edited) (unedited rfl)

theorem tells_of_shows {banner : Option Banner} {mark : Option (String × Option Indicator)}
    (shows : session.desk.Shows (session.step command).1.desk banner mark)
    (explains : session.Explains command banner mark)
    (ended : ∀ kind, (session.step command).2.answer = .outcome (.completed kind) → banner ≠ none)
    (dropped : ∀ ticket reply key, command = .deliver ticket reply →
      session.inFlight.lookup ticket = some (.remove key) →
        (session.step command).2.answer = .outcome (.completed .success) →
          (session.step command).1.desk.screen.row? key = none) :
    session.Tells command := by
  constructor
  case ended =>
    intro kind completed
    obtain ⟨shown, same⟩ := Option.ne_none_iff_exists'.mp (ended kind completed)
    exact ⟨shown, (explains.banner shown).mpr same⟩
  case announced =>
    intro shown announces
    rw [shows.banner, (explains.banner shown).mp announces, Option.some_or]
  case unannounced =>
    intro silent
    have nothing : banner = none := by
      by_contra something
      obtain ⟨shown, same⟩ := Option.ne_none_iff_exists'.mp something
      exact silent shown ((explains.banner shown).mpr same)
    rw [shows.banner, nothing, Option.none_or]
  case marked =>
    intro key indicator marks
    exact shows.marked key indicator ((explains.mark key indicator).mp marks)
  case unmarked =>
    intro key apart
    exact shows.unmarked key fun indicator same => apart indicator ((explains.mark key indicator).mpr same)
  case dropped => exact dropped

theorem withDialog_shows (index : Nat) {act : Dialog → Progress}
    (shows : ∀ dialog, session.desk.Shows (act dialog).work.desk none none) :
    session.desk.Shows (session.withDialog index act).1.desk none none := by
  unfold withDialog
  split
  · exact .refl _
  · rw [after_desk]
    exact shows _

theorem tells_of_own {banner : Option Banner} {mark : Option (String × Option Indicator)}
    (own : ∀ ticket reply, command ≠ .deliver ticket reply)
    (shows : session.desk.Shows (session.step command).1.desk banner mark)
    (explains : session.Explains command banner mark) : session.Tells command := by
  apply tells_of_shows shows explains
  · intro kind completed
    cases session.step_starts own with
    | ends _ _ ended => exact absurd completed (ended kind)
    | waits _ _ _ answer => cases answer.symm.trans completed
  · intro ticket reply key same
    exact absurd same (own ticket reply)

theorem deliver_tells (session : Session) (ticket : Nat) (reply : Reply) :
    session.Tells (.deliver ticket reply) := by
  cases found : session.inFlight.lookup ticket with
  | none =>
      have answer := (step_nothing reply found).1
      have desk : (session.step (.deliver ticket reply)).1.desk = session.desk := by
        simp only [step, found, idle]
      have shows : session.desk.Shows (session.step (.deliver ticket reply)).1.desk none none := by
        rw [desk]
        exact .refl _
      apply tells_of_shows shows
      · apply Explains.nothing
        · rintro shown (⟨_, _, _, lookup⟩ | ⟨_, _, _, lookup⟩) <;> cases found.symm.trans lookup
        · rintro key indicator (⟨_, _, _, _, _, lookup⟩ | _ | _ | ⟨_, _, _, lookup⟩) <;>
            cases found.symm.trans lookup
      · intro kind completed
        cases answer.symm.trans completed
      · rintro _ _ key ⟨⟩ lookup
        cases found.symm.trans lookup
  | some waiting =>
      have desk := deliver_desk found reply
      apply tells_of_shows (desk.symm ▸ session.desk.deliver_shows waiting reply)
        (deliver_explains found reply)
      · exact fun kind completed => Option.some_ne_none _
      · rintro _ _ key ⟨⟩ lookup completed
        cases found.symm.trans lookup
        cases reply with
        | ok =>
            rw [desk]
            exact session.desk.deliver_dropped key
        | failed cause => cases (step_deliver found _).symm.trans completed

/-- Every step that the page does not do by itself. -/
theorem step_tells (session : Session) {command : Step} (operates : ∀ event, command ≠ .onScreen event) :
    session.Tells command := by
  cases command with
  | row key action =>
      obtain ⟨banner, mark, signals, shows⟩ := session.desk.dispatch_signals key action
      exact tells_of_own nofun ((after_desk _).symm ▸ shows) (row_explains signals)
  | openDialog index =>
      have shows := withDialog_shows index (session.desk.openDialog_shows index)
      exact tells_of_own nofun shows (.nothing nofun nofun)
  | closeDialog index =>
      have shows := withDialog_shows index (session.desk.closeDialog_shows index)
      exact tells_of_own nofun shows (.nothing nofun nofun)
  | add index key value =>
      have shows := withDialog_shows index fun dialog =>
        session.desk.requestAdd_shows index dialog key value
      exact tells_of_own nofun shows (.nothing nofun nofun)
  | look => exact tells_of_own nofun (.refl session.desk) (.nothing nofun nofun)
  | deliver ticket reply => exact session.deliver_tells ticket reply
  | onScreen event => exact absurd rfl (operates event)

/-! Runs. -/

/-- What a row shows while it is being edited is at most the refusal of its content. -/
def Unsettled (session : Session) : Prop :=
  ∀ key, session.desk.view.state? key = some .editing →
    session.desk.screen.indicator? key = none ∨
      session.desk.screen.indicator? key = some FeedbackKind.warning.indicator

/-- No reply to a save leaves its row being edited. -/
theorem not_editing_of_saved {ticket : Nat} {reply : Reply} {key candidate : String}
    (distinct : session.core.Distinct)
    (found : session.inFlight.lookup ticket = some (.save key candidate)) :
    (session.step (.deliver ticket reply)).1.desk.view.state? key ≠ some .editing := by
  intro row
  rcases (session.step_effect (.deliver ticket reply)).delivered with ⟨missing, _⟩ | ⟨_, lookup, next⟩
  · cases found.symm.trans missing
  · cases found.symm.trans lookup
    have settled : (Waiting.settle session.desk.view (.save key candidate) reply).state? key =
        some .editing := (congrArg (fun core : Core => core.view.state? key) next).symm.trans row
    have locked : (Waiting.save key candidate).lock? ≠ none := nofun
    cases Waiting.state?_settle_self distinct (.inr locked) settled

theorem step_unsettled {command : Step} (distinct : session.core.Distinct) (spares : command.SparesRows)
    (unsettled : session.Unsettled) : (session.step command).1.Unsettled := by
  intro key row
  by_cases operates : ∀ event, command ≠ .onScreen event
  · have tells := session.step_tells operates
    by_cases marked : ∃ indicator, session.Marks command key indicator
    · obtain ⟨indicator, marks⟩ := marked
      rw [tells.marked key indicator marks]
      cases marks with
      | saved ticket reply _ candidate kind found => exact absurd row (not_editing_of_saved distinct found)
      | rejected => exact .inr rfl
      | edited | deleted => exact .inl rfl
    · have apart : ∀ indicator, ¬ session.Marks command key indicator := not_exists.mp marked
      rw [tells.unmarked key apart]
      -- Nothing but an edit takes a row to being edited, and an edit takes its mark away.
      apply unsettled
      by_contra away
      obtain ⟨same, answer⟩ := step_entered distinct .edit away row
      cases same
      exact apart none (.edited key answer)
  · obtain ⟨event, same⟩ := not_forall_not.mp operates
    subst same
    have kept : (session.desk.screen.apply event).indicator? key = session.desk.screen.indicator? key := by
      rw [Screen.indicator?_apply, if_neg (by simp [spares event rfl])]
    have old := unsettled key row
    rwa [← kept] at old

/-- However a session runs, with any number of dialogs, if the page does nothing to rendered rows by itself:
the next step shows a banner if it ends an operation with a reply or refuses the content of a save, and
otherwise leaves the one that is seen; it marks a row by the outcome of a save of it, unmarks it by editing
or deleting it, and leaves the marks of all other rows. A row that is being edited never shows that a save
of it succeeded or failed. -/
theorem feedback_tells_outcome (messages : List (String × String)) (dialogs : Nat) (steps : List Step)
    (spares : ∀ command ∈ steps, command.SparesRows) :
    let session := (ofMessages messages dialogs).run steps
    (∀ command, (∀ event, command ≠ .onScreen event) → session.Tells command) ∧
    ∀ entry ∈ session.desk.view.entries, entry.state = .editing →
      session.desk.screen.indicator? entry.key = none ∨
        session.desk.screen.indicator? entry.key = some FeedbackKind.warning.indicator := by
  intro session
  have kept : session.core.Distinct ∧ session.Unsettled := by
    apply run_induction (fun session => session.core.Distinct ∧ session.Unsettled) ?_ steps spares
    · refine ⟨ofMessages_distinct messages dialogs, fun key row => ?_⟩
      cases (View.ofMessages_fresh messages).viewing row
    · rintro session command spares ⟨distinct, unsettled⟩
      exact ⟨(session.step_effect command).distinct distinct, step_unsettled distinct spares unsettled⟩
  refine ⟨fun command operates => session.step_tells operates, fun entry member editing => ?_⟩
  exact kept.2 entry.key (editing ▸ View.state?_of_mem kept.1 member)

/-- The mark of a save is gone when the row is edited again; the banner stays. -/
theorem saved_row_edited_again :
    let steps : List Step := [.row "a" .edit, .row "a" (.save "2"), .deliver 1 .ok, .row "a" .edit]
    let session := (ofMessages [("a", "1")] 1).run steps
    (∀ command ∈ steps, command.SparesRows) ∧
    ((ofMessages [("a", "1")] 1).run (steps.take 3)).desk.screen.indicator? "a" =
      some FeedbackKind.success.indicator ∧
    session.desk.view.entries = [⟨"a", "2", .editing⟩] ∧
    session.desk.screen.banner = some .saveSucceeded ∧
    session.Tells (.row "a" (.save "<")) ∧
    (session.desk.screen.indicator? "a" = none ∨
      session.desk.screen.indicator? "a" = some FeedbackKind.warning.indicator) := by
  intro steps session
  have spares : ∀ command ∈ steps, command.SparesRows := by simp [steps, Step.SparesRows]
  have entries : session.desk.view.entries = [⟨"a", "2", .editing⟩] := by decide +kernel
  obtain ⟨tells, editing⟩ := feedback_tells_outcome [("a", "1")] 1 steps spares
  refine ⟨spares, by decide +kernel, entries, by decide +kernel, tells _ (by simp), ?_⟩
  exact editing ⟨"a", "2", .editing⟩ (entries ▸ List.mem_singleton_self _) rfl

end Session
end CatalogueEditor
