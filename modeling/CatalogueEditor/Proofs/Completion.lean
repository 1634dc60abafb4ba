import CatalogueEditor.Proofs.SingleDialog

/-!
Nothing waits forever, in sessions with any number of dialogs. What is busy waits for a call in
flight, and every reply ends its operation, whatever has become of the view meanwhile.
-/

namespace CatalogueEditor

/-- What an operation tells the user once its reply has arrived. -/
def Reply.kind : Reply → FeedbackKind
  | ok => .success
  | failed _ => .failure

variable {before after : Core} {command : Step}

/-! Every submitting dialog is waited for. -/

/-- A dialog that is submitting has an add of its drafts in flight. -/
def Core.Attended (core : Core) : Prop :=
  ∀ index dialog, core.dialogs[index]? = some dialog → dialog.phase = .submitting →
    ∃ ticket locked, (ticket, .add index dialog.key dialog.value locked) ∈ core.inFlight

theorem Session.ofMessages_attended (messages : List (String × String)) (dialogs : Nat) :
    (ofMessages messages dialogs).core.Attended := by
  intro index dialog found submitting
  have empty := List.eq_of_mem_replicate (List.mem_of_getElem? found)
  rw [empty] at submitting
  cases submitting

theorem dialog_of_set {dialogs : List Dialog} {index place : Nat} {next dialog : Dialog}
    (found : (dialogs.set index next)[place]? = some dialog) :
    (index = place ∧ dialog = next) ∨ (index ≠ place ∧ dialogs[place]? = some dialog) := by
  by_cases same : index = place
  · subst same
    have member := List.mem_of_getElem? found
    have bound : index < dialogs.length := by
      simpa using (List.getElem?_eq_some_iff.mp found).1
    rw [List.getElem?_set_self bound] at found
    exact .inl ⟨rfl, (Option.some.inj found).symm⟩
  · rw [List.getElem?_set_ne same] at found
    exact .inr ⟨same, found⟩

theorem Drafts.next_free {index : Nat} {dialog next : Dialog}
    (drafts : Drafts before index dialog command next) : next.phase ≠ .submitting := by
  cases drafts <;> simp [Dialog.empty]

theorem Waiting.mem_settleDialogs {waiting : Waiting} {reply : Reply} {dialogs : List Dialog}
    {place : Nat} {dialog : Dialog}
    (found : (waiting.settleDialogs dialogs reply)[place]? = some dialog)
    (submitting : dialog.phase = .submitting) :
    waiting.dialog? ≠ some place ∧ dialogs[place]? = some dialog := by
  -- A reply leaves the dialog of its add closed or open.
  cases waiting with
  | save | remove => exact ⟨nofun, found⟩
  | add index key value locked =>
      cases reply with
      | ok | failed cause =>
          rcases dialog_of_set found with ⟨_, rfl⟩ | ⟨apart, earlier⟩
          · cases submitting
          · exact ⟨fun same => apart (Option.some.inj same), earlier⟩

namespace Core.Attended

variable {core : Core} {index : Nat}

theorem setDialog (attended : core.Attended) {next : Dialog} (free : next.phase ≠ .submitting) :
    (core.setDialog index next).Attended := by
  intro place dialog found submitting
  rcases dialog_of_set found with ⟨_, rfl⟩ | ⟨_, earlier⟩
  · exact absurd submitting free
  · exact attended place dialog earlier submitting

theorem issue (attended : core.Attended) (waiting : Waiting) : (core.issue waiting).Attended := by
  intro place dialog found submitting
  obtain ⟨ticket, locked, member⟩ := attended place dialog found submitting
  exact ⟨ticket, locked, Core.mem_issue.mpr (.inl member)⟩

theorem submit (attended : core.Attended) (key value : String) (locked : Bool) :
    ((core.issue (.add index key value locked)).setDialog index
      ⟨.submitting, key, value, false, false⟩).Attended := by
  intro place dialog found submitting
  rcases dialog_of_set found with ⟨rfl, rfl⟩ | ⟨_, earlier⟩
  · exact ⟨core.clock, locked, Core.mem_issue.mpr (.inr ⟨rfl, rfl⟩)⟩
  · exact attended.issue _ place dialog earlier submitting

theorem deliver (attended : core.Attended) (ticketed : core.Ticketed) {ticket : Nat}
    {waiting : Waiting} (answered : (ticket, waiting) ∈ core.inFlight) (reply : Reply)
    (view : View) (clock : Nat) :
    Core.Attended ⟨view, waiting.settleDialogs core.dialogs reply,
      core.inFlight.filter (·.1 != ticket), clock⟩ := by
  intro place dialog found submitting
  obtain ⟨elsewhere, earlier⟩ := Waiting.mem_settleDialogs found submitting
  obtain ⟨ticket', locked, member⟩ := attended place dialog earlier submitting
  refine ⟨ticket', locked, ?_⟩
  -- The add of a dialog that is still submitting is not the call that was answered.
  have different : ticket' ≠ ticket := by
    rintro rfl
    rw [ticketed.same answered member] at elsewhere
    exact elsewhere rfl
  simp [member, different]

end Core.Attended

theorem Effect.attended (effect : Effect before command after) (ticketed : before.Ticketed)
    (attended : before.Attended) : after.Attended := by
  cases effect with
  | idle | edit | prompt | cancel => exact attended
  | save key candidate => exact attended.issue (.save key candidate)
  | confirm key => exact attended.issue (.remove key)
  | draft _ index dialog next found drafts => exact attended.setDialog drafts.next_free
  | addNew index key value => exact attended.submit (Text.trim key) value false
  | addLocked index key value => exact attended.submit (Text.trim key) value true
  | deliver ticket reply waiting found =>
      exact attended.deliver ticketed (mem_of_lookup found) reply _ _

/-! What sessions with any number of dialogs keep. -/

structure Core.Live (core : Core) : Prop where
  distinct : core.Distinct
  ticketed : core.Ticketed
  backed : core.Backed
  attended : core.Attended

theorem Effect.live (effect : Effect before command after) (live : before.Live) : after.Live where
  distinct := effect.distinct live.distinct
  ticketed := effect.ticketed live.ticketed
  backed := effect.shift.backed live.distinct live.ticketed live.backed
  attended := effect.attended live.ticketed live.attended

theorem Session.run_live (messages : List (String × String)) (dialogs : Nat) (steps : List Step) :
    ((ofMessages messages dialogs).run steps).core.Live := by
  apply run_keeps (fun _ _ _ effect => effect.live)
  constructor
  · exact ofMessages_distinct messages dialogs
  · exact .of_idle rfl
  · exact ofMessages_backed messages dialogs
  · exact ofMessages_attended messages dialogs

/-! The reply to a call. -/

/-- Only an add that found no row leaves the row of its key to others, when it fails. -/
def Waiting.Spares : Waiting → Reply → Prop
  | add _ _ _ false, .failed _ => True
  | _, _ => False

theorem Waiting.frees_of_not_spares {waiting : Waiting} {reply : Reply}
    (frees : ¬ waiting.Spares reply) : reply = .ok ∨ waiting.lock? ≠ none := by
  cases reply with
  | ok => exact .inl rfl
  | failed cause =>
      apply Or.inr
      cases waiting with
      | save | remove => exact nofun
      | add index key value locked =>
          cases locked with
          | false => exact absurd trivial frees
          | true => exact nofun

theorem Desk.deliver_answer (desk : Desk) (waiting : Waiting) (reply : Reply) :
    (desk.deliver waiting reply).answer = .outcome (.completed reply.kind) := by
  cases waiting with
  | save | remove => cases reply <;> rfl
  | add index key value locked =>
      cases reply with
      | failed cause => rfl
      | ok => simp [deliver, Work.finishAdd, View.upsert_freed, Work.ends, Reply.kind]

theorem Session.step_deliver {session : Session} {ticket : Nat} {waiting : Waiting}
    (found : session.inFlight.lookup ticket = some waiting) (reply : Reply) :
    (session.step (.deliver ticket reply)).2.answer = .outcome (.completed reply.kind) := by
  have answer := session.desk.deliver_answer waiting reply
  simp only [step, found, after, answer]

namespace Core.Live

variable {session : Session} (live : session.core.Live)
include live

theorem row_freed {ticket : Nat} {waiting : Waiting} {reply : Reply}
    (member : (ticket, waiting) ∈ session.inFlight) (frees : ¬ waiting.Spares reply) {entry : Entry}
    (later : entry ∈ (session.step (.deliver ticket reply)).1.desk.view.entries)
    (here : entry.key = waiting.key) : entry.state = .viewing := by
  have effect := session.step_effect (.deliver ticket reply)
  have found := live.ticketed.lookup member
  have row := View.state?_of_mem (effect.distinct live.distinct) later
  rcases effect.delivered with ⟨missing, _⟩ | ⟨waiting', found', next⟩
  · cases found.symm.trans missing
  · cases found.symm.trans found'
    rw [next, here] at row
    exact Waiting.state?_settle_self live.distinct (Waiting.frees_of_not_spares frees) row

theorem quiet_of_idle (idle : session.inFlight = []) {entry : Entry}
    (member : entry ∈ session.desk.view.entries) : entry.state.isBusy = false := by
  by_contra busy
  have row := View.state?_of_mem live.distinct member
  obtain ⟨ticket, waiting, called, _⟩ := live.backed _ _ row (by simpa using busy)
  have none : (ticket, waiting) ∈ session.inFlight := called
  rw [idle] at none
  cases none

theorem free_of_idle (idle : session.inFlight = []) {dialog : Dialog}
    (member : dialog ∈ session.desk.dialogs) : dialog.phase ≠ .submitting := by
  intro submitting
  obtain ⟨index, found⟩ := List.mem_iff_getElem?.mp member
  obtain ⟨ticket, locked, called⟩ := live.attended index dialog found submitting
  have none : (ticket, .add index dialog.key dialog.value locked) ∈ session.inFlight := called
  rw [idle] at none
  cases none

end Core.Live

/-- However a session runs: what is busy has its call in flight; any reply to a call in flight ends
the operation as it says and frees the row, except that a failed add leaves a row alone that it did
not lock; and so nothing is busy when nothing is in flight. -/
theorem Session.nothing_stuck (messages : List (String × String)) (dialogs : Nat)
    (steps : List Step) :
    let session := (ofMessages messages dialogs).run steps
    (∀ entry ∈ session.desk.view.entries,
      (entry.state = .saving →
        ∃ value, session.Awaits (.save entry.key value) ∨ session.Awaits (.add entry.key value)) ∧
      (entry.state = .deleting → session.Awaits (.remove entry.key))) ∧
    (∀ index dialog, session.desk.dialogs[index]? = some dialog → dialog.phase = .submitting →
      ∃ ticket locked,
        (ticket, .add index dialog.key dialog.value locked) ∈ session.inFlight) ∧
    (∀ ticket waiting reply, (ticket, waiting) ∈ session.inFlight →
      (session.step (.deliver ticket reply)).2.answer = .outcome (.completed reply.kind) ∧
      (¬ waiting.Spares reply →
        ∀ entry ∈ (session.step (.deliver ticket reply)).1.desk.view.entries,
          entry.key = waiting.call.key → entry.state.isBusy = false)) ∧
    (session.inFlight = [] →
      (∀ entry ∈ session.desk.view.entries, entry.state.isBusy = false) ∧
        ∀ dialog ∈ session.desk.dialogs, dialog.phase ≠ .submitting) := by
  intro session
  have live : session.core.Live := run_live messages dialogs steps
  refine ⟨fun entry member => ?_, live.attended, fun ticket waiting reply member => ?_, ?_⟩
  · have row := View.state?_of_mem live.distinct member
    constructor
    · intro saving
      exact live.backed.saving_awaits (saving ▸ row)
    · intro deleting
      exact live.backed.deleting_awaits (deleting ▸ row)
  · constructor
    · exact step_deliver (live.ticketed.lookup member) reply
    · intro frees entry later here
      rw [live.row_freed member frees later here]
      rfl
  · intro idle
    exact ⟨fun _ => live.quiet_of_idle idle, fun _ => live.free_of_idle idle⟩

end CatalogueEditor
