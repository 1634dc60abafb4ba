import CatalogueEditor.Proofs.RowLocks

/-!
A session with one dialog has at most one call in flight for each key, and a row is busy exactly
while its call is. The dialog is what makes an add that found no row safe: it makes no second add
before the reply, and no other step makes rows, so that the key has no row until then.
-/

namespace CatalogueEditor

/-- A call that holds no row is for a key without one. -/
def Core.Unclaimed (core : Core) : Prop :=
  ∀ ticket waiting, (ticket, waiting) ∈ core.inFlight → waiting.lock? = none →
    core.view.state? waiting.key = none

variable {core before after : Core} {command : Step}

/-- Two calls that hold no row are one: both come from the only dialog. -/
theorem Core.Submitting.only (submitting : core.Submitting) (single : core.dialogs.length = 1)
    {ticket ticket' : Nat} {waiting waiting' : Waiting} (member : (ticket, waiting) ∈ core.inFlight)
    (member' : (ticket', waiting') ∈ core.inFlight) (unheld : waiting.lock? = none)
    (unheld' : waiting'.lock? = none) : ticket = ticket' := by
  have first : ∀ ticket waiting, (ticket, waiting) ∈ core.inFlight → waiting.lock? = none →
      waiting.dialog? = some 0 := by
    intro ticket waiting member unheld
    cases waiting with
    | save | remove => cases unheld
    | add index key value locked =>
        have found := submitting.draft _ _ index member rfl
        have bound := (List.getElem?_eq_some_iff.mp found).1
        rw [single] at bound
        obtain rfl : index = 0 := by omega
        rfl
  exact submitting.once _ _ _ _ _ member member' (first _ _ member unheld)
    (first _ _ member' unheld')

theorem Shift.unclaimed (shift : Shift before command after) (distinct : before.Distinct)
    (locked : before.Locked) (submitting : before.Submitting) (single : before.dialogs.length = 1)
    (unclaimed : before.Unclaimed) : after.Unclaimed := by
  intro ticket waiting member unheld
  cases shift with
  | stays _ _ calls keys kept =>
      rw [calls] at member
      rw [View.state?_eq_none_iff, keys, ← View.state?_eq_none_iff]
      exact unclaimed ticket waiting member unheld
  | issues _ _ issued calls keys free held others =>
      rw [calls, List.mem_append, List.mem_singleton] at member
      rcases member with earlier | ⟨⟨⟩⟩
      · rw [View.state?_eq_none_iff, keys, ← View.state?_eq_none_iff]
        exact unclaimed ticket waiting earlier unheld
      · exact held.trans unheld
  | delivers answered reply _ gone found calls view =>
      rw [calls, List.mem_filter] at member
      obtain ⟨earlier, different⟩ := member
      have absent := unclaimed ticket waiting earlier unheld
      -- The call that was answered held a row of another key.
      have apart : waiting.key ≠ gone.key := by
        intro same
        cases lock : gone.lock? with
        | some state =>
            have row := locked.held _ _ _ found lock
            cases absent.symm.trans (same ▸ row)
        | none =>
            have := submitting.only single earlier found unheld lock
            simp [this] at different
      rw [view, Waiting.state?_settle_other distinct apart]
      exact absent

theorem Core.Unclaimed.onTime (unclaimed : core.Unclaimed) : ¬ core.Strays command := by
  intro strays
  cases command with
  | deliver ticket reply =>
      cases reply with
      | ok =>
          obtain ⟨waiting, state, member, unheld, row, _⟩ := strays
          cases (unclaimed ticket waiting member unheld).symm.trans row
      | failed cause => exact strays
  | _ => exact strays

/-- All that a session with one dialog keeps. -/
structure Core.Guarded (core : Core) : Prop where
  distinct : core.Distinct
  ticketed : core.Ticketed
  submitting : core.Submitting
  single : core.dialogs.length = 1
  backed : core.Backed
  locked : core.Locked
  unclaimed : core.Unclaimed

theorem Effect.guarded (effect : Effect before command after) (guarded : before.Guarded) :
    after.Guarded where
  distinct := effect.distinct guarded.distinct
  ticketed := effect.ticketed guarded.ticketed
  submitting := effect.submitting guarded.submitting
  single := effect.dialogs_length.trans guarded.single
  backed := effect.shift.backed guarded.distinct guarded.ticketed guarded.backed
  locked := effect.shift.locked guarded.distinct guarded.locked guarded.unclaimed.onTime
  unclaimed :=
    effect.shift.unclaimed guarded.distinct guarded.locked guarded.submitting guarded.single
      guarded.unclaimed

theorem Session.ofMessages_guarded (messages : List (String × String)) :
    (ofMessages messages 1).core.Guarded where
  distinct := ofMessages_distinct messages 1
  ticketed := .of_idle rfl
  submitting := .of_idle rfl
  single := rfl
  backed := ofMessages_backed messages 1
  locked := .of_idle rfl
  unclaimed := fun _ _ member => by cases member

theorem Session.run_guarded (messages : List (String × String)) (steps : List Step) :
    ((ofMessages messages 1).run steps).core.Guarded :=
  run_keeps (fun _ _ _ effect => effect.guarded) _ steps (ofMessages_guarded messages)

namespace Core.Guarded

/-- A key has at most one call in flight. -/
theorem same_ticket (guarded : core.Guarded) {ticket ticket' : Nat} {waiting waiting' : Waiting}
    (member : (ticket, waiting) ∈ core.inFlight) (member' : (ticket', waiting') ∈ core.inFlight)
    (same : waiting.key = waiting'.key) : ticket = ticket' := by
  cases lock : waiting.lock? with
  | some state =>
      have row := guarded.locked.held _ _ _ member lock
      have lock' : waiting'.lock? ≠ none := by
        intro unheld
        cases (guarded.unclaimed _ _ member' unheld).symm.trans (same ▸ row)
      exact guarded.locked.exclusive _ _ _ _ member member' (by simp [lock]) lock' same
  | none =>
      have absent := guarded.unclaimed _ _ member lock
      have lock' : waiting'.lock? = none := by
        cases held : waiting'.lock? with
        | none => rfl
        | some state =>
            have row := guarded.locked.held _ _ _ member' held
            cases absent.symm.trans (same ▸ row)
      exact guarded.submitting.only guarded.single member member' lock lock'

theorem keys_nodup (guarded : core.Guarded) : (core.inFlight.map (·.2.key)).Nodup := by
  refine List.Nodup.map_on ?_ guarded.ticketed.unique.of_map
  rintro ⟨ticket, waiting⟩ member ⟨ticket', waiting'⟩ member' same
  obtain rfl := guarded.same_ticket member member' same
  rw [guarded.ticketed.same member member']

end Core.Guarded

/-- The call is in flight. -/
def Session.Awaits (session : Session) (call : Call) : Prop :=
  ∃ ticket waiting, (ticket, waiting) ∈ session.inFlight ∧ waiting.call = call

theorem Core.Backed.saving_awaits {session : Session} (backed : session.core.Backed) {key : String}
    (row : session.desk.view.state? key = some .saving) :
    ∃ value, session.Awaits (.save key value) ∨ session.Awaits (.add key value) := by
  obtain ⟨ticket, waiting, member, rfl, lock⟩ := backed key _ row rfl
  cases waiting with
  | save saved value => exact ⟨value, .inl ⟨ticket, _, member, rfl⟩⟩
  | add index added value locked => exact ⟨value, .inr ⟨ticket, _, member, rfl⟩⟩
  | remove => cases lock

theorem Core.Backed.deleting_awaits {session : Session} (backed : session.core.Backed)
    {key : String} (row : session.desk.view.state? key = some .deleting) :
    session.Awaits (.remove key) := by
  obtain ⟨ticket, waiting, member, rfl, lock⟩ := backed key _ row rfl
  cases waiting with
  | remove removed => exact ⟨ticket, _, member, rfl⟩
  | save => cases lock
  | add index added value locked => cases locked <;> cases lock

namespace Core.Guarded

variable {session : Session} (guarded : session.core.Guarded) {key : String} {state : RowState}
include guarded

theorem held_of_row (row : session.desk.view.state? key = some state) {ticket : Nat}
    {waiting : Waiting} (member : (ticket, waiting) ∈ session.inFlight) (here : waiting.key = key) :
    waiting.lock? = some state := by
  subst here
  cases lock : waiting.lock? with
  | none => cases (guarded.unclaimed _ _ member lock).symm.trans row
  | some held => exact (guarded.locked.held _ _ _ member lock).symm.trans row

theorem saving_iff (row : session.desk.view.state? key = some state) :
    state = .saving ↔
      ∃ value, session.Awaits (.save key value) ∨ session.Awaits (.add key value) := by
  constructor
  · rintro rfl
    exact guarded.backed.saving_awaits row
  · rintro ⟨value, ⟨ticket, waiting, member, call⟩ | ⟨ticket, waiting, member, call⟩⟩
    · have lock := guarded.held_of_row row member (congrArg Call.key call)
      cases waiting <;> cases call
      cases lock
      rfl
    · have lock := guarded.held_of_row row member (congrArg Call.key call)
      cases waiting <;> cases call
      rename_i locked
      cases locked <;> cases lock
      rfl

theorem deleting_iff (row : session.desk.view.state? key = some state) :
    state = .deleting ↔ session.Awaits (.remove key) := by
  constructor
  · rintro rfl
    exact guarded.backed.deleting_awaits row
  · rintro ⟨ticket, waiting, member, call⟩
    have lock := guarded.held_of_row row member (congrArg Call.key call)
    cases waiting <;> cases call
    cases lock
    rfl

theorem submitted_of_absent {ticket : Nat} {waiting : Waiting}
    (member : (ticket, waiting) ∈ session.inFlight)
    (absent : waiting.key ∉ session.desk.view.keys) :
    ∃ value, waiting = .add 0 waiting.key value false ∧
      session.desk.dialogs[0]? = some ⟨.submitting, waiting.key, value, false, false⟩ := by
  have unheld : waiting.lock? = none := by
    cases lock : waiting.lock? with
    | none => rfl
    | some state =>
        have row := guarded.locked.held _ _ _ member lock
        cases (View.state?_eq_none_iff.mpr absent).symm.trans row
  cases waiting with
  | save | remove => cases unheld
  | add index added value locked =>
      have draft := guarded.submitting.draft _ _ index member rfl
      have bound := (List.getElem?_eq_some_iff.mp draft).1
      rw [guarded.single] at bound
      obtain rfl : index = 0 := by omega
      cases locked
      · exact ⟨value, rfl, draft⟩
      · cases unheld

end Core.Guarded

/-- However a session with one dialog runs, each key has at most one call in flight. A row is busy
exactly while its call is, and a call without a row is the add of the dialog. -/
theorem Session.one_call_per_row (messages : List (String × String)) (steps : List Step) :
    let session := (ofMessages messages 1).run steps
    session.desk.view.keys.Nodup ∧
    (session.inFlight.map fun (_, waiting) => waiting.call.key).Nodup ∧
    (∀ entry ∈ session.desk.view.entries,
      (entry.state = .saving ↔
        ∃ value, session.Awaits (.save entry.key value) ∨ session.Awaits (.add entry.key value)) ∧
      (entry.state = .deleting ↔ session.Awaits (.remove entry.key))) ∧
    (∀ ticket waiting, (ticket, waiting) ∈ session.inFlight →
      waiting.call.key ∉ session.desk.view.keys →
        ∃ value, waiting = .add 0 waiting.call.key value false ∧
          session.desk.dialogs[0]? =
            some ⟨.submitting, waiting.call.key, value, false, false⟩) := by
  intro session
  have guarded : session.core.Guarded := run_guarded messages steps
  refine ⟨guarded.distinct, guarded.keys_nodup, fun entry member => ?_, ?_⟩
  · have row := View.state?_of_mem guarded.distinct member
    exact ⟨guarded.saving_iff row, guarded.deleting_iff row⟩
  · intro ticket waiting member absent
    exact guarded.submitted_of_absent member absent

end CatalogueEditor
