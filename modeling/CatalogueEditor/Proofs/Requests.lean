import CatalogueEditor.Proofs.RunHistory

/-!
One confirmation sends one request. A row comes to be edited only by an accepted edit, and to wait for
the confirmation of its deletion only by an accepted prompt; a call takes it out of that state, so that
the next call needs another one. A dialog that is submitting sends nothing before its reply. An
operation that waits has sent one call, and the delivery of the reply ends it and sends none.
-/

namespace CatalogueEditor

/-- The only action that takes a row to the state. -/
inductive Entrance : RowAction → RowState → Prop
  | edit : Entrance .edit .editing
  | prompt : Entrance .delete .confirmingDelete

variable {before after : Core} {command : Step} {key : String} {state : RowState}
  {action : RowAction}

theorem Entrance.unsettled (entrance : Entrance action state) : state ≠ .viewing := by
  cases entrance <;> exact nofun

theorem Entrance.free (entrance : Entrance action state) : state.isBusy = false := by
  cases entrance <;> rfl

theorem View.state?_of_setState {view : View} {changed : String} {new : RowState}
    (row : (view.setState changed new).state? key = some state) :
    (key = changed ∧ state = new) ∨ view.state? key = some state := by
  rw [state?_setState] at row
  split at row
  · rename_i here
    obtain ⟨_, _, same⟩ := Option.map_eq_some_iff.mp row
    exact .inl ⟨here, same.symm⟩
  · exact .inr row

theorem Effect.entered (effect : Effect before command after) (distinct : before.Distinct)
    (entrance : Entrance action state) (row : after.view.state? key = some state) :
    before.view.state? key = some state ∨
      (command = .row key action ∧ before.Accepts key action) := by
  cases effect with
  | idle | draft | addNew => exact .inl row
  | edit changed found =>
      rcases View.state?_of_setState row with ⟨rfl, rfl⟩ | old
      · cases entrance
        exact .inr ⟨rfl, _, found, rfl⟩
      · exact .inl old
  | save | confirm | cancel | addLocked =>
      rcases View.state?_of_setState row with ⟨_, rfl⟩ | old
      · cases entrance
      · exact .inl old
  | prompt changed start found ready =>
      obtain ⟨moved, later, same⟩ := Option.map_eq_some_iff.mp (View.state?_displace.symm.trans row)
      split at same
      · exact absurd same.symm entrance.unsettled
      · subst same
        rcases View.state?_of_setState later with ⟨rfl, rfl⟩ | old
        · cases entrance
          refine .inr ⟨rfl, start, found, ?_⟩
          rcases ready with rfl | rfl <;> rfl
        · exact .inl old
  | deliver ticket reply waiting found =>
      rcases Waiting.state?_settle distinct row with ⟨_, viewed⟩ | ⟨old, _⟩
      · exact absurd viewed entrance.unsettled
      · exact .inl old

theorem Desk.dispatch_transits (desk : Desk) (entrance : Entrance action state) {old : RowState}
    (row : desk.view.state? key = some old) (accepted : old.accepts action = true) :
    (desk.dispatch key action).answer = .outcome (.transitioned state) := by
  obtain ⟨entry, found, rfl⟩ := Option.map_eq_some_iff.mp row
  unfold dispatch
  simp only [found, accepted, if_pos]
  cases entrance <;> rfl

/-- What the numbers of the calls in flight and the dialogs that wait for them keep. -/
structure Core.Orderly (core : Core) : Prop where
  distinct : core.Distinct
  ticketed : core.Ticketed
  submitting : core.Submitting

theorem Effect.orderly (effect : Effect before command after) (orderly : before.Orderly) :
    after.Orderly where
  distinct := effect.distinct orderly.distinct
  ticketed := effect.ticketed orderly.ticketed
  submitting := effect.submitting orderly.submitting

namespace Session

variable {session : Session} {ticket : Nat} {waiting : Waiting}

theorem ofMessages_orderly (messages : List (String × String)) (dialogs : Nat) :
    (ofMessages messages dialogs).core.Orderly where
  distinct := ofMessages_distinct messages dialogs
  ticketed := .of_idle rfl
  submitting := .of_idle rfl

theorem step_orderly (orderly : session.core.Orderly) (command : Step) :
    (session.step command).1.core.Orderly := (session.step_effect command).orderly orderly

theorem run_orderly (orderly : session.core.Orderly) (steps : List Step) :
    (session.run steps).core.Orderly :=
  run_keeps (fun _ _ _ effect => effect.orderly) session steps orderly

theorem step_entered (distinct : session.core.Distinct) (entrance : Entrance action state)
    (away : session.desk.view.state? key ≠ some state)
    (row : (session.step command).1.desk.view.state? key = some state) :
    (session.recordOf command).Transits key action state := by
  rcases (session.step_effect command).entered distinct entrance row with old | ⟨rfl, accepts⟩
  · exact absurd old away
  · obtain ⟨start, found, accepted⟩ := accepts
    refine ⟨rfl, ?_⟩
    have answer := session.desk.dispatch_transits entrance found accepted
    simp only [recordOf, step, after, answer]

/-- A row that comes to a state during a run took the action that leads there. -/
theorem run_entered (distinct : session.core.Distinct) (entrance : Entrance action state)
    (away : session.desk.view.state? key ≠ some state) {steps : List Step}
    (row : (session.run steps).desk.view.state? key = some state) :
    ∃ record ∈ session.history steps, record.Transits key action state := by
  induction steps generalizing session with
  | nil => exact absurd row away
  | cons command rest ih =>
      by_cases here : (session.step command).1.desk.view.state? key = some state
      · exact ⟨_, List.mem_cons_self, step_entered distinct entrance away here⟩
      · have distinct := (session.step_effect command).distinct distinct
        obtain ⟨record, member, transits⟩ := ih distinct here row
        exact ⟨record, List.mem_cons_of_mem _ member, transits⟩

theorem step_answered (ticketed : session.core.Ticketed)
    (member : (ticket, waiting) ∈ session.inFlight)
    (gone : (ticket, waiting) ∉ (session.step command).1.inFlight) :
    (session.recordOf command).Answers ticket := by
  obtain ⟨reply, rfl⟩ := (session.step_effect command).answered member gone
  exact ⟨reply, rfl, step_deliver (ticketed.lookup member) reply⟩

/-- The reply to a call that is no longer in flight was delivered. -/
theorem run_answered (ticketed : session.core.Ticketed)
    (member : (ticket, waiting) ∈ session.inFlight) {steps : List Step}
    (gone : (ticket, waiting) ∉ (session.run steps).inFlight) :
    ∃ record ∈ session.history steps, record.Answers ticket := by
  induction steps generalizing session with
  | nil => exact absurd member gone
  | cons command rest ih =>
      by_cases here : (ticket, waiting) ∈ (session.step command).1.inFlight
      · have ticketed := (session.step_effect command).ticketed ticketed
        obtain ⟨record, later, answers⟩ := ih ticketed here gone
        exact ⟨record, List.mem_cons_of_mem _ later, answers⟩
      · exact ⟨_, List.mem_cons_self, step_answered ticketed member here⟩

/-- A call takes the row of its key out of every state that an action leads to. -/
theorem entered_after_call (orderly : session.core.Orderly) (entrance : Entrance action state)
    {call : Call} (called : (session.step command).2.call = some call) {steps : List Step}
    (row : ((session.step command).1.run steps).desk.view.state? call.key = some state) :
    ∃ record ∈ (session.step command).1.history steps, record.Transits call.key action state := by
  obtain ⟨waiting, _, _, _, held⟩ := step_sends called
  refine run_entered (step_orderly orderly command).distinct entrance ?_ row
  intro still
  have busy := Waiting.lock?_busy (held.symm.trans still)
  rw [entrance.free] at busy
  cases busy

theorem editing_before_save {value : String}
    (called : (session.step command).2.call = some (.save key value)) :
    session.desk.view.state? key = some .editing := by
  obtain ⟨waiting, same, sends, _⟩ := step_sends called
  cases sends with
  | save saved candidate row =>
      cases same
      exact row
  | remove | add => cases same

theorem confirming_before_remove (called : (session.step command).2.call = some (.remove key)) :
    session.desk.view.state? key = some .confirmingDelete := by
  obtain ⟨waiting, same, sends, _⟩ := step_sends called
  cases sends with
  | remove removed row =>
      cases same
      exact row
  | save | add => cases same

theorem answered_before_add (orderly : session.core.Orderly) {index : Nat}
    {written value written' value' : String} {steps : List Step}
    (called : (session.step (.add index written value)).2.call ≠ none)
    (again : (((session.step (.add index written value)).1.run steps).step
      (.add index written' value')).2.call ≠ none) :
    ∃ record ∈ (session.step (.add index written value)).1.history steps,
      record.Answers session.clock := by
  obtain ⟨call, called⟩ := Option.ne_none_iff_exists'.mp called
  obtain ⟨call', again⟩ := Option.ne_none_iff_exists'.mp again
  obtain ⟨waiting, _, sends, calls, _⟩ := step_sends called
  obtain ⟨waiting', _, sends', _⟩ := step_sends again
  have member : (session.clock, waiting) ∈ (session.step (.add index written value)).1.inFlight := by
    simp [calls]
  have orderly := step_orderly orderly (.add index written value)
  refine run_answered orderly.ticketed member fun still => ?_
  -- The dialog sends again, so that it does not wait for its first call.
  cases sends with
  | add _ _ _ locked =>
    cases sends' with
    | add _ _ _ locked' dialog found free =>
      exact (run_orderly orderly steps).submitting.other found free still rfl

/-- However a session runs, with any number of dialogs: a step sends one call at most; between two
saves of a key its row was taken for editing, between two removals the deletion was prompted, and
between two adds of a dialog came the reply to the first. An operation that completed sent one call,
and one that ended as a transition, a rejection or an error sent none. -/
theorem one_request_per_confirmation (messages : List (String × String)) (dialogs : Nat)
    (steps : List Step) :
    let start := ofMessages messages dialogs
    let history := start.history steps
    (∀ command, (start.run steps).Reports ((start.run steps).step command).1
      ((start.run steps).step command).2) ∧
    (∀ front first middle second back,
      history = front ++ first :: (middle ++ second :: back) →
      (∀ key value value', first.report.call = some (.save key value) →
        second.report.call = some (.save key value') →
          ∃ record ∈ middle, record.Transits key .edit .editing) ∧
      (∀ key, first.report.call = some (.remove key) → second.report.call = some (.remove key) →
        ∃ record ∈ middle, record.Transits key .delete .confirmingDelete) ∧
      (∀ index key value key' value', first.command = .add index key value →
        second.command = .add index key' value' → first.report.call ≠ none →
          second.report.call ≠ none → ∃ record ∈ middle, record.Answers first.number)) ∧
    (∀ number last, (course number history).getLast? = some last →
      (∀ kind, last.report.answer = .outcome (.completed kind) →
        ∃ call, callsOf (course number history) = [call]) ∧
      (last.report.answer.EndsEarly → callsOf (course number history) = [])) := by
  intro start history
  refine ⟨fun command => step_reports _ command, ?_, ?_⟩
  · intro front first middle second back split
    obtain ⟨earlier, command, between, command', rfl, rfl, rfl⟩ := history_pair split
    have orderly : (start.run earlier).core.Orderly :=
      run_orderly (ofMessages_orderly messages dialogs) earlier
    refine ⟨fun key value value' sent again => ?_, fun key sent again => ?_, ?_⟩
    · exact entered_after_call orderly .edit sent (editing_before_save again)
    · exact entered_after_call orderly .prompt sent (confirming_before_remove again)
    · rintro index key value key' value' ⟨⟩ ⟨⟩ sent again
      exact answered_before_add orderly sent again
  · intro number last ends
    have ticketed : start.core.Ticketed := .of_idle rfl
    have shape : Course (course number history) := course_shape ticketed (Nat.zero_le _) steps
    exact ⟨fun kind => shape.calls_of_completed ends, shape.calls_of_early ends⟩

end Session
end CatalogueEditor
