import Mathlib.Logic.Equiv.Basic
import CatalogueEditor.Proofs.StepPlan

/-!
Rows are independent. Two steps on rows of different keys do the same in either order, since each
reads what the other leaves alone: its row, its call in flight and, if it is an add, the dialogs. The
numbers of the two steps change places, and with them the tickets of their calls; which banner is left
to be seen may depend on the order.
-/

namespace CatalogueEditor

/-! Changes of two rows. -/

namespace RowChange

variable {key other : String} (first second : RowChange)

theorem order_put_erase (apart : key ≠ other) (value : String) (keys : List String) :
    (put value).order key (keys.erase other) = ((put value).order key keys).erase other := by
  simp only [order, List.mem_erase_of_ne apart]
  split
  · rfl
  · by_cases present : other ∈ keys
    · rw [List.erase_append_left _ present]
    · rw [List.erase_of_not_mem present, List.erase_append_right _ present,
        List.erase_of_not_mem (by simpa using apart.symm)]

/-- Rows that are removed leave the order of the others, and a new row is the last one. -/
theorem order_comm (apart : key ≠ other) (one : ¬ first.Appends ∨ ¬ second.Appends)
    (keys : List String) :
    second.order other (first.order key keys) = first.order key (second.order other keys) := by
  cases first with
  | keep | setState | store => cases second <;> rfl
  | put value =>
      cases second with
      | keep | setState | store => rfl
      | put => exact one.elim (absurd trivial) (absurd trivial)
      | erase => exact (order_put_erase apart value keys).symm
  | erase =>
      cases second with
      | keep | setState | store => rfl
      | put value => exact order_put_erase apart.symm value keys
      | erase => exact List.erase_comm _ _

theorem apply_comm {view : View} (distinct : view.keys.Nodup) (apart : key ≠ other)
    (one : ¬ first.Appends ∨ ¬ second.Appends) :
    second.apply other (first.apply key view) = first.apply key (second.apply other view) := by
  have firstDistinct : (first.apply key view).keys.Nodup := first.distinct_apply distinct
  have secondDistinct : (second.apply other view).keys.Nodup := second.distinct_apply distinct
  apply View.ext_rows (second.distinct_apply firstDistinct)
  · simp only [keys_apply]
    exact order_comm first second apart one view.keys
  · intro name
    simp only [get?_apply, firstDistinct, secondDistinct, distinct]
    by_cases here : name = key
    · simp [here, apart]
    · by_cases there : name = other
      · simp [there, apart.symm]
      · simp [here, there]

end RowChange

/-- Events of different keys can be followed in either order. -/
theorem Screen.row?_follow_comm (screen : Screen) (first second : List Event) (key : String)
    (apart : (∀ event ∈ first, event.key? ≠ some key) ∨ ∀ event ∈ second, event.key? ≠ some key) :
    (second.foldl apply (first.foldl apply screen)).row? key =
      (first.foldl apply (second.foldl apply screen)).row? key := by
  rcases apart with apart | apart
  · rw [row?_follow_other apart]
    exact row?_follow_congr second (row?_follow_other apart)
  · rw [row?_follow_other apart]
    exact (row?_follow_congr first (row?_follow_other apart)).symm

/-! Renamed tickets. -/

def StepAnswer.renumber (rename : Nat → Nat) : StepAnswer → StepAnswer
  | .inFlight ticket => .inFlight (rename ticket)
  | answer => answer

/-- The reports agree but for the numbers of steps. The log, which also tells of the banner that was
replaced, is left out. -/
structure Report.Matches (rename : Nat → Nat) (one other : Report) : Prop where
  answer : other.answer = one.answer.renumber rename
  call : other.call = one.call
  events : other.events = one.events

/-- The sessions agree but for the numbers of steps, the order in which calls and rendered rows are
listed, and the banner. -/
structure Session.Matches (rename : Nat → Nat) (one other : Session) : Prop where
  view : other.desk.view = one.desk.view
  dialogs : other.desk.dialogs = one.desk.dialogs
  rendered : ∀ key, other.desk.screen.row? key = one.desk.screen.row? key
  calls : other.inFlight.Perm (one.inFlight.map (Prod.map rename id))
  clock : other.clock = one.clock

/-- The order of two steps does not matter. Their numbers change places, and nothing else does in
their reports and in the sessions after both. -/
structure Session.EitherOrder (session : Session) (first second : Step) : Prop where
  firstReport : Report.Matches (Equiv.swap session.clock (session.clock + 1))
    (session.step first).2 ((session.step second).1.step first).2
  secondReport : Report.Matches (Equiv.swap session.clock (session.clock + 1))
    ((session.step first).1.step second).2 (session.step second).2
  sessions : Session.Matches (Equiv.swap session.clock (session.clock + 1))
    ((session.step first).1.step second).1 ((session.step second).1.step first).1

theorem Answer.told_renumber (answer : Answer) (rename : Nat → Nat) (clock : Nat) :
    answer.told (rename clock) = (answer.told clock).renumber rename := by
  cases answer <;> rfl

theorem Answer.sent_renumber (answer : Answer) (rename : Nat → Nat) (clock : Nat) :
    (answer.sent clock).map (Prod.map rename id) = answer.sent (rename clock) := by
  cases answer <;> rfl

/-- The same plan, run at another time, gives the same report. -/
theorem Plan.Steps.matches {plan : Plan} {key : String} {one other : Session} {command : Step}
    {rename : Nat → Nat} (ran : plan.Steps key one command) (again : plan.Steps key other command)
    (clock : rename one.clock = other.clock) :
    Report.Matches rename (one.step command).2 (other.step command).2 where
  answer := by rw [again.answer, ran.answer, ← clock, Answer.told_renumber]
  call := again.call.trans ran.call.symm
  events := again.events.trans ran.events.symm

/-! Calls in flight. -/

namespace Step

variable (first second : Step) (calls : List (Nat × Waiting))

theorem take_comm : second.take (first.take calls) = first.take (second.take calls) := by
  cases first with
  | deliver =>
      cases second with
      | deliver => exact List.filter_comm _ _ _
      | _ => rfl
  | _ => rfl

theorem mem_take {call : Nat × Waiting} {command : Step} (member : call ∈ command.take calls) :
    call ∈ calls := by
  cases command with
  | deliver ticket reply => exact (List.mem_filter.mp member).1
  | _ => exact member

end Step

theorem map_swap_of_earlier {calls : List (Nat × Waiting)} {clock : Nat}
    (earlier : ∀ call ∈ calls, call.1 < clock) :
    calls.map (Prod.map (Equiv.swap clock (clock + 1)) id) = calls := by
  have kept : ∀ call ∈ calls, Prod.map (Equiv.swap clock (clock + 1)) id call = call := by
    rintro ⟨ticket, waiting⟩ member
    have before : ticket < clock := earlier _ member
    rw [Prod.map_apply, Equiv.swap_apply_of_ne_of_ne (by omega) (by omega)]
    rfl
  exact (List.map_congr_left kept).trans (List.map_id _)

namespace Session

variable {session : Session} {first second : Step} {key other : String}

theorem take_sent (ticketed : session.core.Ticketed) (concerns : session.key? second = some other)
    (calls : List (Nat × Waiting)) (answer : Answer) :
    second.take (calls ++ answer.sent session.clock) =
      second.take calls ++ answer.sent session.clock := by
  cases second with
  | deliver ticket reply =>
      obtain ⟨waiting, found, _⟩ := Option.map_eq_some_iff.mp concerns
      have before : ticket < session.clock := ticketed.earlier ticket waiting (mem_of_lookup found)
      have apart : session.clock ≠ ticket := by omega
      rw [Step.take, List.filter_append]
      cases answer <;> simp [Step.take, Answer.sent, apart]
  | _ => rfl

/-- After a step on another row, a step reads what it would have read before. -/
theorem alike_step {plan : Plan} (ran : plan.Steps key session first)
    (distinct : session.core.Distinct) (ticketed : session.core.Ticketed)
    (concerns : session.key? first = some key)
    (later : session.key? second = some other) (apart : key ≠ other)
    (dialogs : session.Adds second → plan.Plain) :
    session.Alike (session.step first).1 second other := by
  constructor
  · have keys : session.desk.view.keys.Nodup := distinct
    rw [ran.view, RowChange.get?_apply _ keys, if_neg apart.symm]
  · intro adds
    rw [ran.dialogs, (dialogs adds).1]
  · rintro ticket reply rfl
    obtain ⟨waiting, found, rfl⟩ := Option.map_eq_some_iff.mp later
    have kept : (ticket, waiting) ∈ first.take session.inFlight := by
      cases first with
      | deliver answered reply =>
          refine List.mem_filter.mpr ⟨mem_of_lookup found, ?_⟩
          -- The call that is answered first is for another row.
          rw [bne_iff_ne]
          rintro rfl
          rw [key?, found] at concerns
          exact apart (Option.some.inj concerns).symm
      | _ => exact mem_of_lookup found
    have still : (ticket, waiting) ∈ (session.step first).1.inFlight := by
      rw [ran.calls]
      exact List.mem_append_left _ kept
    rw [found]
    exact ((session.step_effect first).ticketed ticketed).lookup still

theorem calls_either_order {plan plan' : Plan} (ticketed : session.core.Ticketed)
    (concerns : session.key? first = some key) (concerns' : session.key? second = some other)
    (ahead : plan.Steps key session first)
    (behind : plan'.Steps other (session.step first).1 second)
    (ahead' : plan'.Steps other session second)
    (behind' : plan.Steps key (session.step second).1 first) :
    ((session.step second).1.step first).1.inFlight.Perm
      (((session.step first).1.step second).1.inFlight.map
        (Prod.map (Equiv.swap session.clock (session.clock + 1)) id)) := by
  let rest := second.take (first.take session.inFlight)
  have one : ((session.step first).1.step second).1.inFlight =
      rest ++ plan.answer.sent session.clock ++ plan'.answer.sent (session.clock + 1) := by
    rw [behind.calls, ahead.calls, ahead.clock, take_sent ticketed concerns']
  have two : ((session.step second).1.step first).1.inFlight =
      rest ++ plan'.answer.sent session.clock ++ plan.answer.sent (session.clock + 1) := by
    rw [behind'.calls, ahead'.calls, ahead'.clock, take_sent ticketed concerns, ← Step.take_comm]
  have earlier : ∀ call ∈ rest, call.1 < session.clock := fun call member =>
    ticketed.earlier call.1 call.2 (Step.mem_take _ (Step.mem_take _ member))
  rw [one, two, List.map_append, List.map_append, map_swap_of_earlier earlier,
    Answer.sent_renumber, Answer.sent_renumber, Equiv.swap_apply_left, Equiv.swap_apply_right,
    List.append_assoc, List.append_assoc]
  exact List.perm_append_comm.append_left rest

/-- Two steps possible in a session, on rows of different keys, neither a prompt to delete and not
both adds or replies to adds, can be taken in either order. -/
theorem rows_independent (messages : List (String × String)) (dialogs : Nat) (steps : List Step)
    (first second : Step) (key other : String) :
    let session := (ofMessages messages dialogs).run steps
    session.key? first = some key → session.key? second = some other → key ≠ other →
    first ≠ .row key .delete → second ≠ .row other .delete →
    ¬ (session.Adds first ∧ session.Adds second) → session.EitherOrder first second := by
  intro session concerns concerns' apart noPrompt noPrompt' one
  have live : session.core.Live := run_live messages dialogs steps
  obtain ⟨plan, own, plain, runs⟩ := session.step_plan concerns noPrompt
  obtain ⟨plan', own', plain', runs'⟩ := session.step_plan concerns' noPrompt'
  have ahead := runs session (.refl session first key)
  have ahead' := runs' session (.refl session second other)
  have behind := runs' _ (alike_step ahead live.distinct live.ticketed concerns concerns' apart
    fun adds' => plain fun adds => one ⟨adds, adds'⟩)
  have behind' := runs _ (alike_step ahead' live.distinct live.ticketed concerns' concerns apart.symm
    fun adds => plain' fun adds' => one ⟨adds, adds'⟩)
  have oneAdds : ¬ session.Adds first ∨ ¬ session.Adds second := not_and_or.mp one
  refine ⟨ahead.matches behind' ?_, behind.matches ahead' ?_, ?_, ?_, fun name => ?_, ?_, ?_⟩
  · rw [ahead'.clock]
    exact Equiv.swap_apply_left _ _
  · rw [ahead.clock]
    exact Equiv.swap_apply_right _ _
  · rw [behind.view, behind'.view, ahead.view, ahead'.view]
    exact (RowChange.apply_comm _ _ live.distinct apart
      (oneAdds.imp (fun row => (plain row).2) fun row => (plain' row).2)).symm
  · rw [behind.dialogs, behind'.dialogs, ahead.dialogs, ahead'.dialogs]
    rcases oneAdds with row | row
    · rw [(plain row).1, (plain row).1]
    · rw [(plain' row).1, (plain' row).1]
  · rw [behind.screen, behind'.screen, ahead.screen, ahead'.screen]
    apply Screen.row?_follow_comm
    by_cases here : name = other
    · exact .inr fun event member shown => apart ((own event member name shown).symm.trans here)
    · exact .inl fun event member shown => here (own' event member name shown)
  · exact calls_either_order live.ticketed concerns concerns' ahead behind ahead' behind'
  · rw [behind.clock, behind'.clock, ahead.clock, ahead'.clock]

/-- The reply to a save and an add of another key. -/
theorem reply_while_adding :
    let session := (ofMessages [("a", "1"), ("b", "2")] 1).run
      [.row "a" .edit, .row "a" (.save "x")]
    session.key? (.deliver 1 .ok) = some "a" ∧ session.key? (.add 0 " c " "y") = some "c" ∧
      ¬ (session.Adds (.deliver 1 .ok) ∧ session.Adds (.add 0 " c " "y")) ∧
      session.EitherOrder (.deliver 1 .ok) (.add 0 " c " "y") := by
  intro session
  have reply : session.key? (.deliver 1 .ok) = some "a" := by decide +kernel
  have added : session.key? (.add 0 " c " "y") = some "c" := by decide +kernel
  have saved : session.inFlight.lookup 1 = some (.save "a" "x") := by decide +kernel
  have one : ¬ (session.Adds (.deliver 1 .ok) ∧ session.Adds (.add 0 " c " "y")) := by
    rintro ⟨⟨index, key, value, locked, found⟩, _⟩
    cases saved.symm.trans found
  have independent := rows_independent _ _ _ _ _ "a" "c" reply added (by decide) nofun nofun one
  exact ⟨reply, added, one, independent⟩

end Session

end CatalogueEditor
