import CatalogueEditor.Proofs.StepEffect

/-!
What the events of feedback do to what is rendered for each key. Events leave other keys as they are.
A row that has never been rendered is seen as being viewed.
-/

namespace CatalogueEditor

/-- What an event makes of the row that is rendered for its key. -/
def Event.paint : Event → Option RenderedRow → Option RenderedRow
  | .renderState _ state, row => some { row.getD ⟨.viewing, none⟩ with state }
  | .renderRow _ kind, row => some { row.getD ⟨.viewing, none⟩ with indicator := kind.indicator }
  | .clearRow _, row => row.map fun row => { row with indicator := none }
  | .removeRow _, _ => none
  | _, row => row

namespace Screen

/-- The state that is rendered for a key, if anything is. -/
def state? (screen : Screen) (key : String) : Option RowState :=
  (screen.row? key).map RenderedRow.state

/-- The state that is seen of a key: until something is rendered it is being viewed. -/
def shown (screen : Screen) (key : String) : RowState :=
  (screen.state? key).getD .viewing

variable {screen : Screen} {key other : String}

theorem lookup_first (row : RenderedRow) (rest : List (String × RenderedRow)) :
    ((key, row) :: rest).lookup other = if other = key then some row else rest.lookup other := by
  rw [List.lookup_cons]
  by_cases same : other = key
  · simp [same]
  · rw [beq_false_of_ne same, if_neg same]

theorem lookup_setRow (row : RenderedRow) (rows : List (String × RenderedRow)) :
    (setRow key row rows).lookup other = if other = key then some row else rows.lookup other := by
  induction rows with
  | nil => exact lookup_first row []
  | cons first rest ih =>
      obtain ⟨name, found⟩ := first
      rw [setRow]
      by_cases hit : name = key
      · subst hit
        rw [if_pos rfl, lookup_first, lookup_first]
        split <;> rfl
      · rw [if_neg hit, lookup_first, lookup_first, ih]
        by_cases same : other = name
        · simp [same, hit]
        · simp [same]

theorem lookup_removed (rows : List (String × RenderedRow)) :
    (rows.filter (·.1 != key)).lookup other = if other = key then none else rows.lookup other := by
  induction rows with
  | nil => simp
  | cons first rest ih =>
      obtain ⟨name, found⟩ := first
      by_cases hit : name = key
      · subst hit
        rw [List.filter_cons_of_neg (by simp), ih, lookup_first]
        split <;> rfl
      · rw [List.filter_cons_of_pos (by simp [hit]), lookup_first, lookup_first, ih]
        by_cases same : other = name
        · simp [same, hit]
        · simp [same]

theorem row?_updateRow (change : RenderedRow → RenderedRow) :
    (screen.updateRow key change).row? other =
      if other = key then some (change ((screen.row? key).getD ⟨.viewing, none⟩))
      else screen.row? other :=
  lookup_setRow _ _

/-- An event concerns the row of its key only, and reads no other. -/
theorem row?_apply (event : Event) : (screen.apply event).row? other =
    if event.key? = some other then event.paint (screen.row? other) else screen.row? other := by
  cases event with
  | renderState key state | renderRow key kind =>
      simp only [apply, row?_updateRow, Event.key?, Option.some.injEq, eq_comm (a := other)]
      split
      · rename_i same
        rw [same, Event.paint]
      · rfl
  | clearRow key =>
      simp only [apply, Event.key?, Option.some.injEq, Event.paint]
      cases found : screen.row? key with
      | none =>
          by_cases same : key = other
          · simp [← same, found]
          · simp [same]
      | some row =>
          simp only [Option.isSome_some, if_true, row?_updateRow, found, Option.getD_some]
          by_cases same : other = key
          · simp [same, found]
          · simp [same, Ne.symm same]
  | removeRow key =>
      simp only [apply, row?, lookup_removed, Event.key?, Option.some.injEq, eq_comm (a := other)]
      rfl
  | showBanner | hideBanners => rfl
  | dismiss banner =>
      simp only [apply]
      split <;> rfl

theorem state?_apply (event : Event) : (screen.apply event).state? other =
    if event.key? = some other then (event.paint (screen.row? other)).map RenderedRow.state
    else screen.state? other := by
  rw [state?, row?_apply]
  split <;> rfl

@[simp] theorem state?_renderState (state : RowState) :
    (screen.apply (.renderState key state)).state? other =
      if other = key then some state else screen.state? other := by
  simp [state?_apply, Event.key?, Event.paint, eq_comm (a := other)]

@[simp] theorem shown_renderState (state : RowState) :
    (screen.apply (.renderState key state)).shown other =
      if other = key then state else screen.shown other := by
  rw [shown, state?_renderState]
  split <;> rfl

@[simp] theorem state?_renderRow (kind : FeedbackKind) :
    (screen.apply (.renderRow key kind)).state? other =
      if other = key then some (screen.shown key) else screen.state? other := by
  by_cases same : other = key
  · have own : (Event.renderRow key kind).key? = some key := rfl
    rw [state?_apply, same, if_pos own, if_pos rfl, shown, state?]
    cases screen.row? key <;> rfl
  · simp [state?_apply, Event.key?, same, Ne.symm same]

@[simp] theorem state?_clearRow :
    (screen.apply (.clearRow key)).state? other = screen.state? other := by
  rw [state?_apply]
  split
  · simp [Event.paint, state?, Function.comp_def]
  · rfl

@[simp] theorem state?_removeRow :
    (screen.apply (.removeRow key)).state? other =
      if other = key then none else screen.state? other := by
  simp [state?_apply, Event.key?, Event.paint, eq_comm (a := other)]

@[simp] theorem state?_showBanner (banner : Banner) :
    (screen.apply (.showBanner banner)).state? other = screen.state? other := rfl

/-- An event without a key leaves the rows as they are. -/
theorem state?_page {event : Event} (page : event.key? = none) :
    (screen.apply event).state? other = screen.state? other := by
  simp [state?_apply, page]

theorem row?_follow_other {events : List Event} (apart : ∀ event ∈ events, event.key? ≠ some other) :
    (events.foldl apply screen).row? other = screen.row? other := by
  induction events generalizing screen with
  | nil => rfl
  | cons event rest ih =>
      rw [List.forall_mem_cons] at apart
      rw [List.foldl_cons, ih apart.2, row?_apply, if_neg apart.1]

theorem row?_follow_congr {first second : Screen} (events : List Event)
    (same : first.row? key = second.row? key) :
    (events.foldl apply first).row? key = (events.foldl apply second).row? key := by
  induction events generalizing first second with
  | nil => exact same
  | cons event rest ih =>
      apply ih
      rw [row?_apply, row?_apply, same]

end Screen

namespace Work

variable (work : Work)

@[simp] theorem render_screen (event : Event) :
    (work.render event).desk.screen = work.desk.screen.apply event := rfl

@[simp] theorem setState_screen (key : String) (state : RowState) :
    (work.setState key state).desk.screen = work.desk.screen := rfl

@[simp] theorem changeView_screen (change : View → View) :
    (work.changeView change).desk.screen = work.desk.screen := rfl

@[simp] theorem setDialog_screen (index : Nat) (dialog : Dialog) :
    (work.setDialog index dialog).desk.screen = work.desk.screen := rfl

theorem tell_screen (level : Level) (text : String → String) (event : String → Event)
    (others : List String) :
    (others.foldl (fun work other => (work.say level (text other)).render (event other))
      work).desk.screen = (others.map event).foldl Screen.apply work.desk.screen := by
  induction others generalizing work with
  | nil => rfl
  | cons other rest ih => exact ih _

theorem tell_state? (level : Level) (text : String → String) (state : RowState)
    (others : List String) (key : String) :
    (others.foldl (fun work other => (work.say level (text other)).render
      (.renderState other state)) work).desk.screen.state? key =
        if key ∈ others then some state else work.desk.screen.state? key := by
  induction others generalizing work with
  | nil => simp
  | cons other rest ih =>
      rw [List.foldl_cons, ih]
      by_cases later : key ∈ rest
      · simp [later]
      · simp [later]

end Work

end CatalogueEditor
