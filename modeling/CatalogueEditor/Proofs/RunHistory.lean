import CatalogueEditor.Proofs.SentCalls

/-!
The history of a run: each step with its number, its command and what it reported. An operation shows
in it as the step that starts it and, if a call went out, the delivery of the reply.
-/

namespace CatalogueEditor

structure Record where
  number : Nat
  command : Step
  report : Report

namespace Record

/-- The row of the key took the action and went to the state, without a call. -/
def Transits (record : Record) (key : String) (action : RowAction) (state : RowState) : Prop :=
  record.command = .row key action ∧ record.report.answer = .outcome (.transitioned state)

/-- The reply to the call of a ticket was delivered. -/
def Answers (record : Record) (ticket : Nat) : Prop :=
  ∃ reply, record.command = .deliver ticket reply ∧
    record.report.answer = .outcome (.completed reply.kind)

/-- The record belongs to the operation that the step of the number starts. A delivery belongs to the
operation that waits for it. -/
def isPartOf (number : Nat) (record : Record) : Bool :=
  match record.command with
  | .deliver ticket _ => ticket == number && record.report.answer != .nothingInFlight
  | _ => record.number == number

end Record

/-- The records of the operation that the step of the number starts. -/
def course (number : Nat) (history : List Record) : List Record :=
  history.filter (·.isPartOf number)

/-- The calls that the records report. -/
def callsOf (records : List Record) : List Call :=
  records.filterMap (·.report.call)

/-- The step ended as a transition, as a rejection or with an error. -/
def StepAnswer.EndsEarly : StepAnswer → Prop
  | .outcome (.transitioned _) => True
  | .outcome (.rejected _) => True
  | .refused _ => True
  | _ => False

namespace Session

def recordOf (session : Session) (command : Step) : Record :=
  ⟨session.clock, command, (session.step command).2⟩

def history (session : Session) : List Step → List Record
  | [] => []
  | command :: rest => session.recordOf command :: (session.step command).1.history rest

variable {session : Session} {command : Step} {ticket : Nat} {waiting : Waiting}

/-- Every record of a history was made by a session of the run. -/
theorem history_split {steps : List Step} {front back : List Record} {record : Record}
    (split : session.history steps = front ++ record :: back) :
    ∃ earlier command later, front = session.history earlier ∧
      record = (session.run earlier).recordOf command ∧
      back = ((session.run earlier).step command).1.history later := by
  induction front generalizing session steps with
  | nil =>
      cases steps with
      | nil => cases split
      | cons command rest =>
          cases split
          exact ⟨[], command, rest, rfl, rfl, rfl⟩
  | cons first front ih =>
      cases steps with
      | nil => cases split
      | cons step rest =>
          obtain ⟨rfl, behind⟩ := List.cons.inj split
          obtain ⟨earlier, command, later, rfl, made, rfl⟩ := ih behind
          exact ⟨step :: earlier, command, later, rfl, made, rfl⟩

/-- Two records of a history, and the part of the run between them. -/
theorem history_pair {steps : List Step} {front middle back : List Record} {first second : Record}
    (split : session.history steps = front ++ first :: (middle ++ second :: back)) :
    ∃ earlier command between command',
      first = (session.run earlier).recordOf command ∧
      middle = ((session.run earlier).step command).1.history between ∧
      second = (((session.run earlier).step command).1.run between).recordOf command' := by
  obtain ⟨earlier, command, later, _, rfl, behind⟩ := history_split split
  obtain ⟨between, command', _, rfl, rfl, _⟩ := history_split behind.symm
  exact ⟨earlier, command, between, command', rfl, rfl, rfl⟩

/-! How operations start. -/

/-- What a step that is no delivery does: it ends at once without a call, or it waits for the reply to
its call. -/
inductive Starts (session : Session) (next : Session) (report : Report) : Prop
  | ends (silent : report.call = none) (calls : next.inFlight = session.inFlight)
      (ended : ∀ kind, report.answer ≠ .outcome (.completed kind))
  | waits (waiting : Waiting) (sent : report.call = some waiting.call)
      (calls : next.inFlight = session.inFlight ++ [(session.clock, waiting)])
      (answer : report.answer = .inFlight session.clock)

end Session

namespace Desk

variable (desk : Desk) (kind : FeedbackKind)

theorem dispatch_open (key : String) (action : RowAction) :
    (desk.dispatch key action).answer ≠ .outcome (.completed kind) := by
  unfold dispatch
  split
  · rintro ⟨⟩
  · split
    · cases action with
      | save candidate =>
          simp only [Work.perform, Work.requestSave]
          split <;> rintro ⟨⟩
      | edit | delete | confirmDelete | cancelDelete => rintro ⟨⟩
    · rintro ⟨⟩

theorem openDialog_open (index : Nat) (dialog : Dialog) :
    (desk.openDialog index dialog).answer ≠ .outcome (.completed kind) := by
  unfold openDialog
  split <;> rintro ⟨⟩

theorem closeDialog_open (index : Nat) (dialog : Dialog) :
    (desk.closeDialog index dialog).answer ≠ .outcome (.completed kind) := by
  unfold closeDialog
  split <;> rintro ⟨⟩

theorem requestAdd_open (index : Nat) (dialog : Dialog) (key value : String) :
    (desk.requestAdd index dialog key value).answer ≠ .outcome (.completed kind) := by
  simp only [requestAdd]
  split
  · rintro ⟨⟩
  · split
    · rintro ⟨⟩
    · split
      · rintro ⟨⟩
      · unfold submit
        split
        · rintro ⟨⟩
        · split <;> rintro ⟨⟩

end Desk

namespace Session

theorem after_starts (session : Session) {progress : Progress}
    (unfinished : ∀ kind, progress.answer ≠ .outcome (.completed kind)) :
    session.Starts (session.after progress).1 (session.after progress).2 := by
  unfold after
  cases answer : progress.answer with
  | outcome outcome =>
      refine .ends rfl rfl fun kind same => unfinished kind ?_
      cases same
      exact answer
  | done | refused => exact .ends rfl rfl nofun
  | waits waiting => exact .waits waiting rfl rfl rfl

theorem withDialog_starts (session : Session) (index : Nat) {act : Dialog → Progress}
    (unfinished : ∀ kind dialog, (act dialog).answer ≠ .outcome (.completed kind)) :
    session.Starts (session.withDialog index act).1 (session.withDialog index act).2 := by
  unfold withDialog
  split
  · exact .ends rfl rfl nofun
  · exact session.after_starts fun kind => unfinished kind _

theorem step_starts (session : Session) {command : Step}
    (own : ∀ ticket reply, command ≠ .deliver ticket reply) :
    session.Starts (session.step command).1 (session.step command).2 := by
  cases command with
  | row key action => exact session.after_starts fun kind => Desk.dispatch_open _ kind key action
  | openDialog index => exact session.withDialog_starts index fun kind => Desk.openDialog_open _ kind _
  | closeDialog index =>
      exact session.withDialog_starts index fun kind => Desk.closeDialog_open _ kind _
  | add index key value =>
      exact session.withDialog_starts index fun kind dialog =>
        Desk.requestAdd_open _ kind index dialog key value
  | deliver ticket reply => exact absurd rfl (own ticket reply)
  | onScreen | look => exact .ends rfl rfl nofun

/-! How operations end. -/

section Deliver
variable {session : Session} {ticket : Nat} (reply : Reply)

theorem step_nothing (missing : session.inFlight.lookup ticket = none) :
    (session.step (.deliver ticket reply)).2.answer = .nothingInFlight ∧
      (session.step (.deliver ticket reply)).2.call = none := by
  simp only [step, missing, idle, and_self]

theorem step_delivered {waiting : Waiting} (found : session.inFlight.lookup ticket = some waiting) :
    (session.step (.deliver ticket reply)).2.call = none ∧
      (session.step (.deliver ticket reply)).1.inFlight =
        session.inFlight.filter (·.1 != ticket) := by
  have answer := session.desk.deliver_answer waiting reply
  simp only [step, found, after, answer, and_self]

end Deliver

end Session

/-- No call of the number is in flight. -/
def Core.Unheard (core : Core) (number : Nat) : Prop :=
  ∀ waiting, (number, waiting) ∉ core.inFlight

theorem Core.Unheard.lookup {core : Core} {number : Nat} (unheard : core.Unheard number) :
    core.inFlight.lookup number = none := by
  rw [List.lookup_eq_none_iff]
  rintro ⟨ticket, waiting⟩ member
  have apart : number ≠ ticket := fun same => unheard waiting (same ▸ member)
  simpa using apart

section Effects
variable {before after : Core} {command : Step} (effect : Effect before command after)
include effect

theorem Effect.unheard {number : Nat} (past : number ≠ before.clock)
    (unheard : before.Unheard number) : after.Unheard number := by
  intro waiting member
  rcases effect.origin member with earlier | ⟨here, _⟩
  · exact unheard waiting earlier
  · exact past here

/-- A call leaves the calls in flight only by its reply. -/
theorem Effect.answered {ticket : Nat} {waiting : Waiting}
    (member : (ticket, waiting) ∈ before.inFlight) (gone : (ticket, waiting) ∉ after.inFlight) :
    ∃ reply, command = .deliver ticket reply := by
  cases effect with
  | idle | edit | prompt | cancel | draft => exact absurd member gone
  | save | confirm | addNew | addLocked => exact absurd (List.mem_append_left _ member) gone
  | deliver answered reply =>
      by_cases same : ticket = answered
      · exact ⟨reply, same ▸ rfl⟩
      · exact absurd (List.mem_filter.mpr ⟨member, by simpa using same⟩) gone

end Effects

theorem Effect.fewer {before after : Core} {ticket : Nat} {reply : Reply}
    (effect : Effect before (.deliver ticket reply) after) : after.inFlight ⊆ before.inFlight := by
  rcases effect.delivered with ⟨_, rfl⟩ | ⟨waiting, _, rfl⟩
  · exact List.Subset.refl _
  · exact List.filter_subset_self _

/-- The records of an operation: none yet, one step that ended at once, one step whose call waits for
its reply, or that step and the delivery. -/
inductive Course : List Record → Prop
  | unstarted : Course []
  | ended (only : Record) (silent : only.report.call = none)
      (atOnce : ∀ kind, only.report.answer ≠ .outcome (.completed kind)) : Course [only]
  | waiting (first : Record) (call : Call) (sent : first.report.call = some call)
      (waits : ∃ ticket, first.report.answer = .inFlight ticket) : Course [first]
  | completed (first last : Record) (call : Call) (sent : first.report.call = some call)
      (silent : last.report.call = none)
      (done : ∃ kind, last.report.answer = .outcome (.completed kind)) : Course [first, last]

namespace Course

variable {records : List Record} {last : Record}

theorem calls_of_completed (course : Course records) (ends : records.getLast? = some last)
    {kind : FeedbackKind} (completed : last.report.answer = .outcome (.completed kind)) :
    ∃ call, callsOf records = [call] := by
  cases course with
  | unstarted => cases ends
  | ended only silent atOnce =>
      cases ends
      exact absurd completed (atOnce kind)
  | waiting first call sent waits =>
      cases ends
      obtain ⟨ticket, waits⟩ := waits
      cases waits.symm.trans completed
  | completed first last call sent silent => exact ⟨call, by simp [callsOf, sent, silent]⟩

theorem calls_of_early (course : Course records) (ends : records.getLast? = some last)
    (early : last.report.answer.EndsEarly) : callsOf records = [] := by
  cases course with
  | unstarted => rfl
  | ended only silent => simp [callsOf, silent]
  | waiting first call sent waits =>
      obtain ⟨ticket, waits⟩ := waits
      obtain rfl : first = last := Option.some.inj ends
      simp [waits, StepAnswer.EndsEarly] at early
  | completed first final call sent silent done =>
      obtain ⟨kind, done⟩ := done
      obtain rfl : final = last := Option.some.inj ends
      simp [done, StepAnswer.EndsEarly] at early

end Course

namespace Session

variable {session : Session} {number : Nat} {command : Step}

theorem delivery_isPartOf {ticket : Nat} {reply : Reply}
    (apart : ticket = number → session.inFlight.lookup number = none) :
    (session.recordOf (.deliver ticket reply)).isPartOf number = false := by
  by_cases same : ticket = number
  · subst same
    simp [recordOf, Record.isPartOf, step_nothing reply (apart rfl)]
  · simp [recordOf, Record.isPartOf, same]

/-- A step has no part in an operation that it neither starts nor replies to. -/
theorem recordOf_isPartOf (past : number ≠ session.clock)
    (apart : ∀ reply, command = .deliver number reply → session.inFlight.lookup number = none) :
    (session.recordOf command).isPartOf number = false := by
  cases command with
  | deliver ticket reply => exact delivery_isPartOf fun same => apart reply (same ▸ rfl)
  | row | openDialog | closeDialog | add | onScreen | look => exact beq_false_of_ne past.symm

theorem course_skip {steps : List Step}
    (apart : (session.recordOf command).isPartOf number = false) :
    course number (session.history (command :: steps)) =
      course number ((session.step command).1.history steps) :=
  List.filter_cons_of_neg (by simp [apart])

theorem course_take {steps : List Step}
    (part : (session.recordOf command).isPartOf number = true) :
    course number (session.history (command :: steps)) =
      session.recordOf command :: course number ((session.step command).1.history steps) :=
  List.filter_cons_of_pos part

theorem step_clock : (session.step command).1.clock = session.clock + 1 :=
  (session.step_effect command).clock

/-- Of an operation that is over, or that never waited, nothing comes any more. -/
theorem course_past (unheard : session.core.Unheard number) (past : number < session.clock)
    (steps : List Step) : course number (session.history steps) = [] := by
  induction steps generalizing session with
  | nil => rfl
  | cons command rest ih =>
      have apart : number ≠ session.clock := Nat.ne_of_lt past
      rw [course_skip (recordOf_isPartOf apart fun _ _ => unheard.lookup)]
      exact ih ((session.step_effect command).unheard apart unheard)
        (step_clock ▸ Nat.lt_succ_of_lt past)

/-- Of an operation that waits, at most the delivery of its reply is to come. -/
theorem course_awaited (ticketed : session.core.Ticketed) {waiting : Waiting}
    (member : (number, waiting) ∈ session.inFlight) (steps : List Step) :
    course number (session.history steps) = [] ∨
      ∃ last, course number (session.history steps) = [last] ∧ last.report.call = none ∧
        ∃ kind, last.report.answer = .outcome (.completed kind) := by
  induction steps generalizing session with
  | nil => exact .inl rfl
  | cons command rest ih =>
      have effect := session.step_effect command
      have past : number < session.clock := ticketed.earlier number waiting member
      have found := ticketed.lookup member
      by_cases own : ∃ reply, command = .deliver number reply
      · obtain ⟨reply, rfl⟩ := own
        obtain ⟨silent, calls⟩ := step_delivered reply found
        have answer := step_deliver found reply
        have part : (session.recordOf (.deliver number reply)).isPartOf number = true := by
          simp [recordOf, Record.isPartOf, answer]
        have unheard : (session.step (.deliver number reply)).1.core.Unheard number := by
          intro other stays
          have stays : (number, other) ∈ session.inFlight.filter (·.1 != number) := calls ▸ stays
          simp at stays
        have quiet := course_past unheard (step_clock ▸ Nat.lt_succ_of_lt past) rest
        refine .inr ⟨session.recordOf (.deliver number reply), ?_, silent, reply.kind, answer⟩
        rw [course_take part, quiet]
      · have stays : (number, waiting) ∈ (session.step command).1.inFlight := by
          by_contra gone
          exact own (effect.answered member gone)
        rw [course_skip (recordOf_isPartOf (Nat.ne_of_lt past) fun reply same =>
          absurd ⟨reply, same⟩ own)]
        exact ih (effect.ticketed ticketed) stays

theorem Starts.course {next : Session} {rest : List Step} {first : Record}
    (starts : session.Starts next first.report) (ticketed : session.core.Ticketed)
    (later : next.core.Ticketed) (clock : next.clock = session.clock + 1) :
    Course (first :: course session.clock (next.history rest)) := by
  cases starts with
  | ends silent calls ended =>
      have unheard : next.core.Unheard session.clock := by
        intro waiting member
        have member : (session.clock, waiting) ∈ session.inFlight := by rwa [← calls]
        exact Nat.lt_irrefl _ (ticketed.earlier _ waiting member)
      rw [course_past unheard (clock ▸ Nat.lt_succ_self _)]
      exact .ended first silent ended
  | waits waiting sent calls answer =>
      have member : (session.clock, waiting) ∈ next.inFlight := by simp [calls]
      rcases course_awaited later member rest with none | ⟨last, replied, silent, done⟩
      · rw [none]
        exact .waiting first _ sent ⟨_, answer⟩
      · rw [replied]
        exact .completed first last _ sent silent done

theorem course_shape (ticketed : session.core.Ticketed) (ahead : session.clock ≤ number)
    (steps : List Step) : Course (course number (session.history steps)) := by
  induction steps generalizing session with
  | nil => exact .unstarted
  | cons command rest ih =>
      have effect := session.step_effect command
      have later := effect.ticketed ticketed
      have unheard : session.core.Unheard number := by
        intro waiting member
        exact Nat.not_lt_of_le ahead (ticketed.earlier number waiting member)
      by_cases here : number = session.clock
      · subst here
        by_cases own : ∀ ticket reply, command ≠ .deliver ticket reply
        · have part : (session.recordOf command).isPartOf session.clock = true := by
            cases command with
            | deliver ticket reply => exact absurd rfl (own ticket reply)
            | _ => exact beq_self_eq_true _
          rw [course_take part]
          exact (session.step_starts own).course ticketed later step_clock
        · -- A delivery starts no operation, so that there is none of its number.
          obtain ⟨ticket, reply, rfl⟩ : ∃ ticket reply, command = .deliver ticket reply := by
            simpa using own
          have quiet : (session.step (.deliver ticket reply)).1.core.Unheard session.clock := by
            intro waiting member
            exact unheard waiting (effect.fewer member)
          rw [course_skip (delivery_isPartOf fun _ => unheard.lookup),
            course_past quiet (step_clock ▸ Nat.lt_succ_self _)]
          exact .unstarted
      · rw [course_skip (recordOf_isPartOf here fun _ _ => unheard.lookup)]
        have ahead := Nat.lt_of_le_of_ne ahead (Ne.symm here)
        exact ih later (step_clock ▸ ahead)

end Session
end CatalogueEditor
