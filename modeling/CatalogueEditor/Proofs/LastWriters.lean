import Mathlib.Data.List.DropRight
import Mathlib.Data.List.Induction
import CatalogueEditor.Proofs.OutcomeFeedback

/-!
What a screen shows is what was written last. After any events, a row is there if it was rendered since it
was last removed; it shows the state that was rendered last and the indicator that was rendered last unless
that was cleared; and the banner is the last one unless it was hidden or dismissed. So an event that is
repeated changes nothing, and events that write different things can be taken in either order.
-/

namespace CatalogueEditor

namespace Event

/-- Whether the event renders the row of a key. -/
def renders (key : String) : Event → Bool
  | renderState other _ => other = key
  | renderRow other _ => other = key
  | _ => false

def state? (key : String) : Event → Option RowState
  | renderState other state => if other = key then some state else none
  | _ => none

def kind? (key : String) : Event → Option FeedbackKind
  | renderRow other kind => if other = key then some kind else none
  | _ => none

def banner? : Event → Option Banner
  | showBanner banner => some banner
  | _ => none

/-- What was written by the last of the events that write anything. -/
def last? {Written : Type} (writes : Event → Option Written) (events : List Event) : Option Written :=
  (events.filterMap writes).getLast?

/-- The events behind the last one of a kind, or all of them. -/
def since (mark : Event → Bool) (events : List Event) : List Event :=
  events.rtakeWhile (!mark ·)

/-- The events that still count for the row of a key. -/
def sinceRemoved (key : String) (events : List Event) : List Event :=
  since (· = removeRow key) events

/-- The events that still count for the indicator in the row of a key. -/
def sinceCleared (key : String) (events : List Event) : List Event :=
  since (· = clearRow key) (sinceRemoved key events)

/-- The events behind the last one that shows a banner. -/
def sinceShown (events : List Event) : List Event :=
  since (·.banner?.isSome) events

variable (events : List Event) (event : Event) (key : String)

theorem last?_concat {Written : Type} (writes : Event → Option Written) :
    last? writes (events ++ [event]) = (writes event).or (last? writes events) := by
  rw [last?, List.filterMap_append, List.getLast?_append]
  cases written : writes event <;> simp [written, last?]

theorem since_concat (mark : Event → Bool) :
    since mark (events ++ [event]) = if mark event then [] else since mark events ++ [event] := by
  rw [since, List.rtakeWhile_concat]
  cases mark event <;> rfl

theorem sinceRemoved_concat : sinceRemoved key (events ++ [event]) =
    if event = removeRow key then [] else sinceRemoved key events ++ [event] := by
  simp only [sinceRemoved, since_concat, decide_eq_true_eq]

theorem sinceCleared_concat : sinceCleared key (events ++ [event]) =
    if event = removeRow key ∨ event = clearRow key then [] else sinceCleared key events ++ [event] := by
  rw [sinceCleared, sinceRemoved_concat]
  by_cases removed : event = removeRow key
  · simp [removed, since]
  · simp [removed, since_concat, sinceCleared]

theorem sinceShown_concat : sinceShown (events ++ [event]) =
    if event.banner?.isSome then [] else sinceShown events ++ [event] :=
  since_concat events event _

end Event

namespace Screen

open Event (last? sinceRemoved sinceCleared sinceShown)

/-- Rows and banner are what the events wrote last. -/
structure ShowsLast (screen : Screen) (events : List Event) : Prop where
  rendered (key : String) :
    (screen.row? key).isSome ↔ ∃ event ∈ sinceRemoved key events, event.renders key
  state (key : String) (row : RenderedRow) : screen.row? key = some row →
    row.state = (last? (Event.state? key) (sinceRemoved key events)).getD .viewing
  indicator (key : String) (row : RenderedRow) : screen.row? key = some row →
    row.indicator = (last? (Event.kind? key) (sinceCleared key events)).map FeedbackKind.indicator
  banner : screen.banner = (last? Event.banner? events).filter fun banner =>
    .hideBanners ∉ sinceShown events ∧ .dismiss banner ∉ sinceShown events

/-- The screens show the same rows, in whatever order, and the same banner. -/
structure SameShown (first second : Screen) : Prop where
  rows (key : String) : first.row? key = second.row? key
  banner : first.banner = second.banner

/-- The order of two events does not matter, whatever events follow. -/
def EitherOrder (screen : Screen) (first second : Event) : Prop :=
  ∀ later : List Event, SameShown (later.foldl apply ((screen.apply first).apply second))
    (later.foldl apply ((screen.apply second).apply first))

variable {screen : Screen} {key : String}

/-! What one event writes. -/

theorem isSome_row?_apply (event : Event) : ((screen.apply event).row? key).isSome =
    if event = .removeRow key then false else event.renders key || (screen.row? key).isSome := by
  rw [row?_apply]
  cases event with
  | renderState other | renderRow other | clearRow other | removeRow other =>
      by_cases same : other = key <;> simp [Event.key?, Event.paint, Event.renders, same]
  | showBanner | hideBanners | dismiss => simp [Event.key?, Event.renders]

theorem shown_apply (event : Event) : (screen.apply event).shown key =
    if event = .removeRow key then .viewing else (event.state? key).getD (screen.shown key) := by
  simp only [shown, Screen.state?, row?_apply]
  cases event with
  | renderState other | renderRow other | clearRow other | removeRow other =>
      by_cases same : other = key <;> cases screen.row? key <;>
        simp [Event.key?, Event.paint, Event.state?, same]
  | showBanner | hideBanners | dismiss => simp [Event.key?, Event.state?]

theorem indicator?_written (event : Event) : (screen.apply event).indicator? key =
    if event = .removeRow key ∨ event = .clearRow key then none
    else ((event.kind? key).map FeedbackKind.indicator).or (screen.indicator? key) := by
  simp only [indicator?, row?_apply]
  cases event with
  | renderState other | renderRow other | clearRow other | removeRow other =>
      by_cases same : other = key <;> cases screen.row? key <;>
        simp [Event.key?, Event.paint, Event.kind?, same]
  | showBanner | hideBanners | dismiss => simp [Event.key?, Event.kind?]

/-- A banner is shown until banners are hidden or it is dismissed. -/
theorem banner_apply (event : Event) : (screen.apply event).banner =
    (event.banner?.or screen.banner).filter fun banner => event ≠ .hideBanners ∧ event ≠ .dismiss banner := by
  cases event with
  | renderState | renderRow | clearRow | removeRow =>
      rw [banner_row rfl]
      cases screen.banner <;> simp [Event.banner?, Option.filter_some]
  | showBanner | hideBanners => simp [Event.banner?, apply, Option.filter_some]
  | dismiss banner =>
      simp only [apply]
      cases shown : screen.banner with
      | none => simp [Event.banner?, shown]
      | some other =>
          by_cases same : other = banner
          · simp [Event.banner?, Option.filter_some, same]
          · simp [Event.banner?, Option.filter_some, shown, same, Ne.symm same]

/-! What was written last. -/

theorem isSome_row?_run (events : List Event) : ((events.foldl apply blank).row? key).isSome =
    (sinceRemoved key events).any (Event.renders key) := by
  induction events using List.reverseRecOn with
  | nil => rfl
  | append_singleton events event ih =>
      rw [List.foldl_concat, isSome_row?_apply, ih, Event.sinceRemoved_concat]
      split
      · rfl
      · rw [List.any_append, List.any_cons, List.any_nil, Bool.or_false, Bool.or_comm]

theorem shown_run (events : List Event) : (events.foldl apply blank).shown key =
    (last? (Event.state? key) (sinceRemoved key events)).getD .viewing := by
  induction events using List.reverseRecOn with
  | nil => rfl
  | append_singleton events event ih =>
      rw [List.foldl_concat, shown_apply, ih, Event.sinceRemoved_concat]
      split
      · rfl
      · rw [Event.last?_concat]
        cases event.state? key <;> rfl

theorem indicator?_run (events : List Event) : (events.foldl apply blank).indicator? key =
    (last? (Event.kind? key) (sinceCleared key events)).map FeedbackKind.indicator := by
  induction events using List.reverseRecOn with
  | nil => rfl
  | append_singleton events event ih =>
      rw [List.foldl_concat, indicator?_written, ih, Event.sinceCleared_concat]
      split
      · rfl
      · rw [Event.last?_concat]
        cases event.kind? key <;> rfl

theorem banner_run (events : List Event) : (events.foldl apply blank).banner =
    (last? Event.banner? events).filter fun banner =>
      .hideBanners ∉ sinceShown events ∧ .dismiss banner ∉ sinceShown events := by
  induction events using List.reverseRecOn with
  | nil => rfl
  | append_singleton events event ih =>
      rw [List.foldl_concat, banner_apply, ih, Event.last?_concat, Event.sinceShown_concat]
      cases shows : event.banner? with
      | some banner =>
          have keeps : event ≠ .hideBanners ∧ event ≠ .dismiss banner := by
            constructor <;> rintro rfl <;> cases shows
          simp [keeps, Option.filter_some]
      | none =>
          simp only [Option.none_or, Option.filter_filter, Option.isSome_none, Bool.false_eq_true,
            if_false]
          congr 1
          funext banner
          rw [Bool.eq_iff_iff]
          simp only [Bool.and_eq_true, decide_eq_true_eq, List.mem_append, List.mem_singleton, not_or,
            eq_comm (b := event)]
          exact and_and_and_comm

theorem showsLast_run (events : List Event) : (events.foldl apply blank).ShowsLast events where
  rendered key := by rw [isSome_row?_run, List.any_eq_true]
  state key row found := by
    rw [← shown_run, shown, Screen.state?, found]
    rfl
  indicator key row found := by
    rw [← indicator?_run, indicator?, found]
    rfl
  banner := banner_run events

/-! Events that are repeated. -/

theorem setRow_setRow (first second : RenderedRow) (rows : List (String × RenderedRow)) :
    setRow key second (setRow key first rows) = setRow key second rows := by
  induction rows with
  | nil => simp [setRow]
  | cons row rest ih => by_cases same : row.1 = key <;> simp [setRow, same, ih]

theorem updateRow_updateRow (change : RenderedRow → RenderedRow)
    (settles : ∀ row, change (change row) = change row) :
    (screen.updateRow key change).updateRow key change = screen.updateRow key change := by
  have written : (screen.updateRow key change).row? key =
      some (change ((screen.row? key).getD ⟨.viewing, none⟩)) := by
    rw [row?_updateRow, if_pos rfl]
  rw [updateRow, written, Option.getD_some, settles]
  simp only [updateRow, setRow_setRow]

theorem apply_apply (event : Event) : (screen.apply event).apply event = screen.apply event := by
  cases event with
  | renderState key state =>
      exact updateRow_updateRow (fun row => { row with state }) fun _ => rfl
  | renderRow key kind =>
      exact updateRow_updateRow (fun row => { row with indicator := kind.indicator }) fun _ => rfl
  | clearRow key =>
      by_cases present : (screen.row? key).isSome
      · have still : ((screen.updateRow key fun row => { row with indicator := none }).row? key).isSome := by
          simp [row?_updateRow]
        simp only [apply, if_pos present, if_pos still]
        exact updateRow_updateRow _ fun _ => rfl
      · simp only [apply, if_neg present]
  | removeRow key => simp [apply]
  | showBanner | hideBanners => rfl
  | dismiss banner => by_cases shown : screen.banner = some banner <;> simp [apply, shown]

/-! Events in either order. -/

theorem SameShown.apply {first second : Screen} (same : SameShown first second) (event : Event) :
    SameShown (first.apply event) (second.apply event) where
  rows key := by rw [row?_apply, row?_apply, same.rows]
  banner := by rw [banner_apply, banner_apply, same.banner]

theorem SameShown.follow {first second : Screen} (same : SameShown first second) (later : List Event) :
    SameShown (later.foldl Screen.apply first) (later.foldl Screen.apply second) := by
  induction later generalizing first second with
  | nil => exact same
  | cons event rest ih => exact ih (same.apply event)

/-- Two events of rows can change places if they do so on the row that both are about. -/
theorem eitherOrder_of_paint {first second : Event} {one other : String} (own : first.key? = some one)
    (its : second.key? = some other)
    (paints : one = other → ∀ row, second.paint (first.paint row) = first.paint (second.paint row)) :
    screen.EitherOrder first second := by
  refine SameShown.follow ⟨fun key => ?_, ?_⟩
  · simp only [row?_apply, own, its, Option.some.injEq]
    by_cases here : one = key
    · by_cases there : other = key
      · simp [here, there, paints (here.trans there.symm)]
      · simp [here, there]
    · simp [here]
  · rw [banner_row its, banner_row own, banner_row own, banner_row its]

theorem eitherOrder_of_keys {first second : Event} {one other : String} (own : first.key? = some one)
    (its : second.key? = some other) (apart : one ≠ other) : screen.EitherOrder first second :=
  eitherOrder_of_paint own its fun same => absurd same apart

theorem eitherOrder_renderRow (state : RowState) (kind : FeedbackKind) :
    screen.EitherOrder (.renderState key state) (.renderRow key kind) :=
  eitherOrder_of_paint rfl rfl fun _ row => by cases row <;> rfl

theorem eitherOrder_clearRow (state : RowState) :
    screen.EitherOrder (.renderState key state) (.clearRow key) :=
  eitherOrder_of_paint rfl rfl fun _ row => by cases row <;> rfl

end Screen

/-- After any events a screen shows what they wrote last. Repeated events do nothing more, and the order
does not matter of events for different rows, nor of a state and an indicator for the same one. -/
theorem screen_shows_last_writes (events : List Event) :
    let screen := events.foldl Screen.apply .blank
    screen.ShowsLast events ∧
    (∀ event, (screen.apply event).apply event = screen.apply event) ∧
    (∀ first second one other, first.key? = some one → second.key? = some other → one ≠ other →
      screen.EitherOrder first second) ∧
    ∀ key state, (∀ kind, screen.EitherOrder (.renderState key state) (.renderRow key kind)) ∧
      screen.EitherOrder (.renderState key state) (.clearRow key) := by
  intro screen
  refine ⟨Screen.showsLast_run events, Screen.apply_apply, ?_, fun key state => ⟨?_, ?_⟩⟩
  · exact fun _ _ _ _ own its apart => Screen.eitherOrder_of_keys own its apart
  · exact Screen.eitherOrder_renderRow state
  · exact Screen.eitherOrder_clearRow state

/-- A row that was removed starts again, and an earlier banner can no longer be dismissed. -/
theorem removed_row_starts_again :
    let events : List Event := [.renderState "a" .editing, .renderRow "a" .failure, .removeRow "a",
      .renderRow "a" .warning, .clearRow "b", .showBanner .saveFailed, .showBanner .addFailed,
      .dismiss .saveFailed]
    let screen := events.foldl Screen.apply .blank
    screen.ShowsLast events ∧ screen.row? "a" = some ⟨.viewing, some FeedbackKind.warning.indicator⟩ ∧
      screen.row? "b" = none ∧ screen.banner = some .addFailed ∧
      (Event.clearRow "a").key? = some "a" ∧ (Event.removeRow "b").key? = some "b" ∧ "a" ≠ "b" ∧
      screen.EitherOrder (.clearRow "a") (.removeRow "b") := by
  intro events screen
  obtain ⟨shows, _, either, _⟩ := screen_shows_last_writes events
  have apart : "a" ≠ "b" := by decide
  exact ⟨shows, by decide, by decide, by decide, rfl, rfl, apart,
    either (.clearRow "a") (.removeRow "b") "a" "b" rfl rfl apart⟩

end CatalogueEditor
