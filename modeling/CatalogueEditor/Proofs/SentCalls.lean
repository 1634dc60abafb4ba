import CatalogueEditor.Proofs.RowLocks
import CatalogueEditor.Proofs.StoredMessages

/-!
What is known when a call goes out. An operation sends its call only after its checks: the value is
valid, the row is in the state that the operation needs, and a dialog that adds waits for no other
reply. From then on the row is held, if the operation needs one.
-/

namespace CatalogueEditor

/-- The step sends the call of an operation, and why it may. An add locks the row of its key if there
is one. -/
inductive Sends (before : Core) : Step → Waiting → Prop
  | save (key candidate : String) (row : before.view.state? key = some .editing)
      (valid : Markup.validate candidate = .ok ()) :
      Sends before (.row key (.save candidate)) (.save key candidate)
  | remove (key : String) (row : before.view.state? key = some .confirmingDelete) :
      Sends before (.row key .confirmDelete) (.remove key)
  | add (index : Nat) (key value : String) (locked : Bool) (dialog : Dialog)
      (found : before.dialogs[index]? = some dialog) (free : dialog.phase ≠ .submitting)
      (named : Text.trim key ≠ "") (valid : Markup.validate value = .ok ())
      (row : before.view.state? (Text.trim key) = if locked then some .viewing else none) :
      Sends before (.add index key value) (.add index (Text.trim key) value locked)

variable {before after : Core} {command : Step} {waiting : Waiting} {session : Session} {call : Call}

/-- A reply makes the list of calls in flight no longer. -/
theorem answered_ne_sent (calls : List (Nat × Waiting)) (ticket : Nat) (sent : Nat × Waiting) :
    calls.filter (·.1 != ticket) ≠ calls ++ [sent] := by
  intro same
  have shorter := List.length_filter_le (·.1 != ticket) calls
  rw [same, List.length_append, List.length_singleton] at shorter
  omega

theorem Effect.sends (effect : Effect before command after)
    (calls : after.inFlight = before.inFlight ++ [(before.clock, waiting)]) :
    Sends before command waiting := by
  cases effect with
  | save key candidate row valid =>
      cases List.append_cancel_left calls
      exact .save key candidate row valid
  | confirm key row =>
      cases List.append_cancel_left calls
      exact .remove key row
  | addNew index key value dialog found free named valid absent =>
      cases List.append_cancel_left calls
      exact .add index key value false dialog found free named valid absent
  | addLocked index key value dialog found free named valid row =>
      cases List.append_cancel_left calls
      exact .add index key value true dialog found free named valid row
  | deliver ticket reply answered found =>
      exact absurd calls (answered_ne_sent _ _ _)
  | idle | edit | prompt | cancel | draft =>
      exact absurd (List.self_eq_append_right.mp calls) (List.cons_ne_nil _ _)

theorem Effect.holds (effect : Effect before command after)
    (calls : after.inFlight = before.inFlight ++ [(before.clock, waiting)]) :
    after.view.state? waiting.key = waiting.lock? := by
  cases effect.shift with
  | stays _ _ same =>
      exact absurd (List.self_eq_append_right.mp (same.symm.trans calls)) (List.cons_ne_nil _ _)
  | issues _ _ issued sent keys free held =>
      cases List.append_cancel_left (sent.symm.trans calls)
      exact held
  | delivers ticket reply _ answered found rest =>
      exact absurd (rest.symm.trans calls) (answered_ne_sent _ _ _)

namespace Session

/-- The call of a step: the operation that waits for its reply, the checks before it, and the row that
is held from now on. -/
theorem step_sends (called : (session.step command).2.call = some call) :
    ∃ waiting, waiting.call = call ∧ Sends session.core command waiting ∧
      (session.step command).1.inFlight = session.inFlight ++ [(session.clock, waiting)] ∧
      (session.step command).1.desk.view.state? call.key = waiting.lock? := by
  have effect := session.step_effect command
  rcases session.step_reports command with ⟨waiting, calls, sent⟩ | ⟨silent, _⟩
  · obtain rfl : waiting.call = call := Option.some.inj (sent.symm.trans called)
    exact ⟨waiting, rfl, effect.sends calls, calls, effect.holds calls⟩
  · cases silent.symm.trans called

end Session
end CatalogueEditor
