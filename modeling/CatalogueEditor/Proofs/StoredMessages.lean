import CatalogueEditor.Proofs.Completion

/-!
The messages of a page are a function of what was acknowledged. A run is read as its transcript: the
calls that went out, each with its ticket, and the replies that came in. The calls that were
acknowledged, carried out one after the other on the seeded messages, give the messages of the view.
-/

namespace CatalogueEditor

/-- The messages in the order of the page. -/
def View.messages (view : View) : List (String × String) :=
  view.entries.map fun entry => (entry.key, entry.value)

/-- Gives the message of a key, if there is one, another value in its place. -/
def replaceValue (key value : String) (messages : List (String × String)) :
    List (String × String) :=
  messages.map fun message => if message.1 = key then (key, value) else message

/-- What a call asks the endpoint to make of its messages. -/
def Call.carryOut (messages : List (String × String)) : Call → List (String × String)
  | save key value => replaceValue key value messages
  | add key value =>
      if key ∈ messages.map Prod.fst then replaceValue key value messages
      else messages ++ [(key, value)]
  | remove key => messages.filter fun message => message.1 ≠ key

/-- The calls that went out, the last one first, after a step with this report. -/
def Report.record (report : Report) (clock : Nat) (issued : List (Nat × Call)) :
    List (Nat × Call) :=
  report.call.toList.map (clock, ·) ++ issued

/-- The call that a step acknowledges: the one that went out with the ticket of the reply. A reply to
nothing in flight acknowledges nothing. -/
def Step.acknowledges (issued : List (Nat × Call)) (answer : StepAnswer) : Step → List Call
  | .deliver ticket .ok =>
      if answer = .nothingInFlight then [] else (issued.lookup ticket).toList
  | _ => []

/-- The calls that a run acknowledges, in the order of the replies. -/
def Session.acknowledged (session : Session) (issued : List (Nat × Call)) : List Step → List Call
  | [] => []
  | command :: rest =>
      let (next, report) := session.step command
      command.acknowledges issued report.answer ++
        next.acknowledged (report.record session.clock issued) rest

/-! Updates of a view as updates of its messages. -/
namespace View

variable {view : View} {key : String}

theorem keys_eq_messages : view.keys = view.messages.map Prod.fst := by
  simp [keys, messages]

theorem messages_modify {change : Entry → Entry}
    (keeps : ∀ entry, (change entry).key = entry.key ∧ (change entry).value = entry.value) :
    (view.modify key change).messages = view.messages := by
  obtain ⟨entries⟩ := view
  simp only [messages, modify]
  induction entries with
  | nil => rfl
  | cons entry rest ih =>
      rw [modifyFirst]
      by_cases hit : entry.key = key
      · simp [hit, keeps]
      · simp [hit, ih]

theorem messages_setState (state : RowState) :
    (view.setState key state).messages = view.messages :=
  messages_modify fun _ => ⟨rfl, rfl⟩

theorem messages_displace : (Work.displace key view).messages = view.messages := by
  simp only [messages, Work.displace, List.map_map]
  apply List.map_congr_left
  intro entry _
  simp only [Function.comp_apply]
  split <;> rfl

theorem messages_store (distinct : view.keys.Nodup) (value : String) :
    (view.store key value).messages = replaceValue key value view.messages := by
  simp only [messages, store, entries_modify distinct, replaceValue, List.map_map]
  apply List.map_congr_left
  intro entry _
  by_cases hit : entry.key = key <;> simp [hit]

theorem messages_put (distinct : view.keys.Nodup) (value : String) :
    (view.put key value).messages = (Call.add key value).carryOut view.messages := by
  rw [put, Call.carryOut, ← keys_eq_messages]
  split
  · exact messages_store distinct value
  · simp [messages]

theorem messages_erase (distinct : view.keys.Nodup) :
    (view.erase key).messages = (Call.remove key).carryOut view.messages := by
  obtain ⟨entries⟩ := view
  simp only [messages, erase, keys, Call.carryOut] at *
  induction entries with
  | nil => rfl
  | cons entry rest ih =>
      rw [List.map_cons, List.nodup_cons] at distinct
      by_cases hit : entry.key = key
      · subst hit
        simp only [beq_self_eq_true, List.eraseP_cons_of_pos, List.map_cons, ne_eq, not_true,
          decide_false, Bool.false_eq_true, not_false_eq_true, List.filter_cons_of_neg]
        symm
        apply List.filter_eq_self.mpr
        intro message member
        obtain ⟨other, later, rfl⟩ := List.mem_map.mp member
        exact decide_eq_true (later_key_ne distinct.1 later)
      · simpa [hit] using ih distinct.2

end View

theorem Waiting.messages_settle_failed {waiting : Waiting} {view : View} {cause : RequestError} :
    (waiting.settle view (.failed cause)).messages = view.messages := by
  cases waiting with
  | save | remove => exact View.messages_setState _
  | add index key value locked =>
      cases locked with
      | false => rfl
      | true => exact View.messages_setState _

theorem Waiting.messages_settle_ok (waiting : Waiting) {view : View}
    (distinct : view.keys.Nodup) :
    (waiting.settle view .ok).messages = waiting.call.carryOut view.messages := by
  cases waiting with
  | save key candidate => exact View.messages_store distinct candidate
  | add index key value locked => exact View.messages_put distinct value
  | remove key => exact View.messages_erase distinct

variable {before after : Core} {command : Step} {session : Session} {issued : List (Nat × Call)}

theorem Effect.messages (effect : Effect before command after)
    (unacknowledged : ∀ ticket, command ≠ .deliver ticket .ok) :
    after.view.messages = before.view.messages := by
  cases effect with
  | idle | draft | addNew => rfl
  | prompt => exact View.messages_displace.trans (View.messages_setState _)
  | edit | save | confirm | cancel | addLocked => exact View.messages_setState _
  | deliver ticket reply =>
      cases reply with
      | ok => exact absurd rfl (unacknowledged ticket)
      | failed cause => exact Waiting.messages_settle_failed

/-! The transcript has every call in flight. -/

theorem Report.record_silent {report : Report} {clock : Nat} (silent : report.call = none) :
    report.record clock issued = issued := by
  simp [record, silent]

theorem Report.record_called {report : Report} {clock : Nat} {call : Call}
    (called : report.call = some call) : report.record clock issued = (clock, call) :: issued := by
  simp [record, called]

def Session.Recorded (session : Session) (issued : List (Nat × Call)) : Prop :=
  ∀ ticket waiting, (ticket, waiting) ∈ session.inFlight →
    issued.lookup ticket = some waiting.call

/-- A step reports the call that it puts in flight, and no other. -/
def Session.Reports (session next : Session) (report : Report) : Prop :=
  (∃ waiting, next.inFlight = session.inFlight ++ [(session.clock, waiting)] ∧
    report.call = some waiting.call) ∨
  (report.call = none ∧ next.inFlight ⊆ session.inFlight)

namespace Session

theorem after_reports (session : Session) (progress : Progress) :
    session.Reports (session.after progress).1 (session.after progress).2 := by
  unfold after
  cases progress.answer with
  | waits waiting => exact .inl ⟨waiting, rfl, rfl⟩
  | outcome | done | refused => exact .inr ⟨rfl, List.Subset.refl _⟩

theorem withDialog_reports (session : Session) (index : Nat) (run : Dialog → Progress) :
    session.Reports (session.withDialog index run).1 (session.withDialog index run).2 := by
  unfold withDialog
  split
  · exact .inr ⟨rfl, List.Subset.refl _⟩
  · exact after_reports session _

theorem deliver_reports (session : Session) (ticket : Nat) (reply : Reply) :
    session.Reports (session.step (.deliver ticket reply)).1
      (session.step (.deliver ticket reply)).2 := by
  cases found : session.inFlight.lookup ticket with
  | none =>
      simp only [step, found]
      exact .inr ⟨rfl, List.Subset.refl _⟩
  | some waiting =>
      have answer := session.desk.deliver_answer waiting reply
      simp only [step, found, after, answer]
      exact .inr ⟨rfl, List.filter_subset_self _⟩

theorem step_reports (session : Session) (command : Step) :
    session.Reports (session.step command).1 (session.step command).2 := by
  cases command with
  | row key action => exact after_reports session _
  | openDialog | closeDialog | add => exact withDialog_reports session _ _
  | deliver ticket reply => exact deliver_reports session ticket reply
  | onScreen | look => exact .inr ⟨rfl, List.Subset.refl _⟩

theorem Recorded.step (recorded : session.Recorded issued) (ticketed : session.core.Ticketed)
    (command : Step) :
    (session.step command).1.Recorded
      ((session.step command).2.record session.clock issued) := by
  intro ticket waiting member
  rcases session.step_reports command with ⟨sent, calls, called⟩ | ⟨silent, calls⟩
  · rw [Report.record_called called]
    rw [calls, List.mem_append, List.mem_singleton] at member
    rcases member with earlier | ⟨⟨⟩⟩
    · have older : ticket ≠ session.clock := Nat.ne_of_lt (ticketed.earlier _ _ earlier)
      rw [List.lookup_cons, beq_false_of_ne older]
      exact recorded _ _ earlier
    · exact List.lookup_cons_self
  · rw [Report.record_silent silent]
    exact recorded _ _ (calls member)

theorem acknowledges_missing {ticket : Nat} (missing : session.inFlight.lookup ticket = none) :
    (Step.deliver ticket .ok).acknowledges issued
      (session.step (.deliver ticket .ok)).2.answer = [] := by
  simp [step, missing, idle, Step.acknowledges]

theorem acknowledges_found {ticket : Nat} {waiting : Waiting}
    (found : session.inFlight.lookup ticket = some waiting)
    (recorded : session.Recorded issued) :
    (Step.deliver ticket .ok).acknowledges issued
      (session.step (.deliver ticket .ok)).2.answer = [waiting.call] := by
  rw [step_deliver found, Step.acknowledges, recorded ticket waiting (mem_of_lookup found)]
  rfl

/-- What a step acknowledges is what it does to the messages. -/
theorem step_messages (distinct : session.core.Distinct) (recorded : session.Recorded issued)
    (command : Step) :
    (session.step command).1.desk.view.messages =
      (command.acknowledges issued (session.step command).2.answer).foldl Call.carryOut
        session.desk.view.messages := by
  have effect := session.step_effect command
  cases command with
  | row | openDialog | closeDialog | add | onScreen | look => exact effect.messages nofun
  | deliver ticket reply =>
      cases reply with
      | failed cause => exact effect.messages nofun
      | ok =>
          rcases effect.delivered with ⟨missing, next⟩ | ⟨waiting, found, next⟩
          · rw [acknowledges_missing missing]
            exact congrArg (·.view.messages) next
          · have settled : (session.step (.deliver ticket .ok)).1.desk.view =
                waiting.settle session.desk.view .ok := congrArg Core.view next
            rw [settled, acknowledges_found found recorded]
            exact waiting.messages_settle_ok distinct

theorem run_messages (distinct : session.core.Distinct) (ticketed : session.core.Ticketed)
    (recorded : session.Recorded issued) (steps : List Step) :
    (session.run steps).desk.view.messages =
      (session.acknowledged issued steps).foldl Call.carryOut session.desk.view.messages := by
  induction steps generalizing session issued with
  | nil => rfl
  | cons command rest ih =>
      have effect := session.step_effect command
      have later := ih (effect.distinct distinct) (effect.ticketed ticketed)
        (recorded.step ticketed command)
      simp only [run, acknowledged, List.foldl_append]
      rw [← step_messages distinct recorded command]
      exact later

/-- However a session runs, with any number of dialogs: the messages of its view are the seeded ones
on which the acknowledged calls were carried out, in the order of their replies. A step that delivers
no acknowledgement leaves them as they are. -/
theorem messages_eq_acknowledged (messages : List (String × String)) (dialogs : Nat)
    (steps : List Step) :
    let session := (ofMessages messages dialogs).run steps
    session.desk.view.messages =
      ((ofMessages messages dialogs).acknowledged [] steps).foldl Call.carryOut
        (View.ofMessages messages).messages ∧
    ∀ command, (∀ ticket, command ≠ .deliver ticket .ok) →
      (session.step command).1.desk.view.messages = session.desk.view.messages := by
  intro session
  constructor
  · apply run_messages
    · exact ofMessages_distinct messages dialogs
    · exact .of_idle rfl
    · exact nofun
  · intro command unacknowledged
    exact (session.step_effect command).messages unacknowledged

end Session
end CatalogueEditor
