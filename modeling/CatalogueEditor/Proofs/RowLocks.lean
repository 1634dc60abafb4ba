import CatalogueEditor.Proofs.SessionRun

/-!
The state of a row as the lock of its operation. A call that goes out holds the row of its key, if
there is one, in a busy state; the row is free again when the reply is delivered. Only an add that
found no row holds nothing, and its reply may come when the key has a row after all: such a reply
strays if the row is in use. Without stray replies every lock is kept, and with one dialog no reply
strays.
-/

namespace CatalogueEditor

namespace Waiting

/-- The state in which the row of the key is held until the reply, if it is held. -/
def lock? : Waiting → Option RowState
  | save .. => some .saving
  | add _ _ _ locked => if locked then some .saving else none
  | remove _ => some .deleting

theorem lock?_busy {waiting : Waiting} {state : RowState} (held : waiting.lock? = some state) :
    state.isBusy = true := by
  cases waiting with
  | save | remove => cases held; rfl
  | add index key value locked => cases locked <;> cases held; rfl

variable {view : View} {waiting : Waiting} {reply : Reply} {key : String}

theorem state?_settle_other (distinct : view.keys.Nodup) (other : key ≠ waiting.key) :
    (waiting.settle view reply).state? key = view.state? key := by
  cases waiting with
  | save saved candidate =>
      have apart : key ≠ saved := other
      cases reply <;> simp [settle, apart]
  | remove removed =>
      have apart : key ≠ removed := other
      cases reply <;> simp [settle, apart, View.state?_erase distinct]
  | add index added value locked =>
      have apart : key ≠ added := other
      cases reply <;> cases locked <;> simp [settle, apart]

theorem state?_settle_self (distinct : view.keys.Nodup) {state : RowState}
    (frees : reply = .ok ∨ waiting.lock? ≠ none)
    (found : (waiting.settle view reply).state? waiting.key = some state) : state = .viewing := by
  -- After the reply the row of the key is viewed, unless an add failed that held none.
  have freed : ∀ {row : Option RowState}, row.map (fun _ => RowState.viewing) = some state →
      state = .viewing := by
    intro row same
    obtain ⟨_, _, rfl⟩ := Option.map_eq_some_iff.mp same
    rfl
  cases waiting with
  | save saved candidate =>
      cases reply <;> simp only [settle, View.state?_store, View.state?_setState] at found <;>
        exact freed (by simpa [key, call, Call.key] using found)
  | remove removed =>
      cases reply with
      | ok => simp [settle, View.state?_erase distinct, key, call, Call.key] at found
      | failed cause => exact freed (by simpa [settle, key, call, Call.key] using found)
  | add index added value locked =>
      cases reply with
      | ok => simpa [settle, key, call, Call.key] using found.symm
      | failed cause =>
          cases locked with
          | false => simp [lock?] at frees
          | true => exact freed (by simpa [settle, key, call, Call.key] using found)

theorem settle_unheld {cause : RequestError} (unheld : waiting.lock? = none) :
    waiting.settle view (.failed cause) = view := by
  cases waiting with
  | save | remove => cases unheld
  | add index key value locked => cases locked <;> cases unheld; rfl

theorem state?_settle_unheld (unheld : waiting.lock? = none) :
    (waiting.settle view .ok).state? waiting.key = some .viewing := by
  -- An acknowledged add leaves a row, also where it held none.
  cases waiting with
  | save | remove => cases unheld
  | add index added value locked => exact (View.state?_put _).trans (if_pos rfl)

/-- A row after the reply: freed by it, or in the state of before and not held by the call. -/
theorem state?_settle (distinct : view.keys.Nodup) {state : RowState}
    (found : (waiting.settle view reply).state? key = some state) :
    (key = waiting.key ∧ state = .viewing) ∨
      (view.state? key = some state ∧ (key = waiting.key → waiting.lock? = none)) := by
  by_cases same : key = waiting.key
  · subst same
    by_cases frees : reply = .ok ∨ waiting.lock? ≠ none
    · exact .inl ⟨rfl, state?_settle_self distinct frees found⟩
    · obtain ⟨refused, unheld⟩ := not_or.mp frees
      cases reply with
      | ok => exact absurd rfl refused
      | failed cause =>
          rw [settle_unheld (not_not.mp unheld)] at found
          exact .inr ⟨found, fun _ => not_not.mp unheld⟩
  · rw [state?_settle_other distinct same] at found
    exact .inr ⟨found, fun here => absurd here same⟩

end Waiting

/-- What a step means for the rows and their locks. -/
inductive Shift (before : Core) : Step → Core → Prop
  -- No call goes out or comes back, and no lock is touched.
  | stays (command : Step) (after : Core) (calls : after.inFlight = before.inFlight)
      (keys : after.view.keys = before.view.keys)
      (busy : ∀ key state, state.isBusy = true →
        (after.view.state? key = some state ↔ before.view.state? key = some state)) :
      Shift before command after
  -- A call goes out and takes the row of its key, which was not busy.
  | issues (command : Step) (after : Core) (waiting : Waiting)
      (calls : after.inFlight = before.inFlight ++ [(before.clock, waiting)])
      (keys : after.view.keys = before.view.keys)
      (free : ∀ state, before.view.state? waiting.key = some state → state.isBusy = false)
      (held : after.view.state? waiting.key = waiting.lock?)
      (others : ∀ key, key ≠ waiting.key → after.view.state? key = before.view.state? key) :
      Shift before command after
  | delivers (ticket : Nat) (reply : Reply) (after : Core) (waiting : Waiting)
      (found : (ticket, waiting) ∈ before.inFlight)
      (calls : after.inFlight = before.inFlight.filter (·.1 != ticket))
      (view : after.view = waiting.settle before.view reply) :
      Shift before (.deliver ticket reply) after

theorem View.busy_setState {view : View} {key other : String} {old new state : RowState}
    (row : view.state? key = some old) (quiet : old.isBusy = false) (still : new.isBusy = false)
    (busy : state.isBusy = true) :
    (view.setState key new).state? other = some state ↔ view.state? other = some state := by
  rw [View.state?_setState]
  split
  · rename_i same
    rw [same, row]
    constructor
    · rintro ⟨⟩
      rw [still] at busy
      cases busy
    · rintro ⟨⟩
      rw [quiet] at busy
      cases busy
  · rfl

-- Only a row that waits for confirmation can be displaced, and such a row is not busy.
theorem View.busy_displace {view : View} {key other : String} {state : RowState}
    (busy : state.isBusy = true) :
    (Work.displace key view).state? other = some state ↔ view.state? other = some state := by
  rw [View.state?_displace]
  cases view.state? other with
  | none => rfl
  | some old =>
      rw [Option.map_some]
      split
      · rename_i moved
        rw [moved.2]
        constructor <;> rintro ⟨⟩ <;> cases busy
      · rfl

-- A row that was found and not busy is locked for the call that goes out.
theorem Shift.locks {before : Core} {command : Step} (waiting : Waiting) (dialogs : List Dialog)
    {old new : RowState} (row : before.view.state? waiting.key = some old)
    (quiet : old.isBusy = false) (lock : waiting.lock? = some new) :
    Shift before command ⟨before.view.setState waiting.key new, dialogs,
      before.inFlight ++ [(before.clock, waiting)], before.clock + 1⟩ := by
  refine .issues _ _ waiting rfl (View.keys_setState _) ?_ ?_ fun other apart => ?_
  · intro state found
    cases row.symm.trans found
    exact quiet
  · simp [row, lock]
  · exact (View.state?_setState _).trans (if_neg apart)

variable {before after : Core} {command : Step}

theorem Effect.shift (effect : Effect before command after) : Shift before command after := by
  cases effect with
  | idle | draft => exact .stays _ _ rfl rfl fun _ _ _ => Iff.rfl
  | edit key row =>
      exact .stays _ _ rfl (View.keys_setState _) fun _ _ => View.busy_setState row rfl rfl
  | cancel key row =>
      exact .stays _ _ rfl (View.keys_setState _) fun _ _ => View.busy_setState row rfl rfl
  | prompt key state row ready =>
      have quiet : state.isBusy = false := by
        rcases ready with rfl | rfl <;> rfl
      refine .stays _ _ rfl (View.keys_displace.trans (View.keys_setState _)) fun _ _ busy => ?_
      exact (View.busy_displace busy).trans (View.busy_setState row quiet rfl busy)
  | save key candidate row valid => exact .locks (.save key candidate) before.dialogs row rfl rfl
  | confirm key row => exact .locks (.remove key) before.dialogs row rfl rfl
  | addLocked index key value dialog found free named valid row =>
      exact .locks (.add index (Text.trim key) value true) _ row rfl rfl
  | addNew index key value dialog found free named valid absent =>
      refine .issues _ _ (.add index (Text.trim key) value false) rfl rfl ?_ absent fun _ _ => rfl
      intro state row
      cases absent.symm.trans row
  | deliver ticket reply waiting found =>
      exact .delivers ticket reply _ waiting (mem_of_lookup found) rfl rfl

/-- A call in flight was there before, or it was issued now for a row that was not busy. -/
theorem Shift.origin (shift : Shift before command after) {ticket : Nat} {waiting : Waiting}
    (member : (ticket, waiting) ∈ after.inFlight) :
    (ticket, waiting) ∈ before.inFlight ∨
      (ticket = before.clock ∧
        ∀ state, before.view.state? waiting.key = some state → state.isBusy = false) := by
  cases shift with
  | stays _ _ calls => exact .inl (calls ▸ member)
  | issues _ _ issued calls keys free =>
      rw [calls, List.mem_append, List.mem_singleton] at member
      rcases member with earlier | ⟨⟨⟩⟩
      · exact .inl earlier
      · exact .inr ⟨rfl, free⟩
  | delivers answered reply _ gone found calls =>
      rw [calls] at member
      exact .inl (List.mem_filter.mp member).1

/-! Every busy row is waited for. -/

def Core.Backed (core : Core) : Prop :=
  ∀ key state, core.view.state? key = some state → state.isBusy = true →
    ∃ ticket waiting, (ticket, waiting) ∈ core.inFlight ∧ waiting.key = key ∧
      waiting.lock? = some state

theorem Session.ofMessages_backed (messages : List (String × String)) (dialogs : Nat) :
    (ofMessages messages dialogs).core.Backed := by
  intro key state row busy
  cases (View.ofMessages_fresh messages).viewing row
  cases busy

theorem Shift.backed (shift : Shift before command after) (distinct : before.Distinct)
    (ticketed : before.Ticketed) (backed : before.Backed) : after.Backed := by
  intro key state row busy
  cases shift with
  | stays _ _ calls keys kept =>
      rw [calls]
      exact backed key state ((kept key state busy).mp row) busy
  | issues _ _ waiting calls keys free held others =>
      rw [calls]
      by_cases same : key = waiting.key
      · subst same
        exact ⟨before.clock, waiting, by simp, rfl, held.symm.trans row⟩
      · rw [others key same] at row
        obtain ⟨ticket, other, member, found⟩ := backed key state row busy
        exact ⟨ticket, other, List.mem_append_left _ member, found⟩
  | delivers ticket reply _ waiting found calls view =>
      rw [view] at row
      rcases Waiting.state?_settle distinct row with ⟨_, rfl⟩ | ⟨row, unheld⟩
      · cases busy
      obtain ⟨ticket', holder, member, here, held⟩ := backed key state row busy
      refine ⟨ticket', holder, ?_, here, held⟩
      -- The holder of the row is not the call that was answered.
      have different : ticket' ≠ ticket := by
        rintro rfl
        cases ticketed.same member found
        cases held.symm.trans (unheld here.symm)
      simp [calls, member, different]

/-! Every call that took a row holds it, if no reply strays. -/

/-- The step delivers an acknowledged add that holds no row, although its key now has one that is
in use. -/
def Core.Strays (core : Core) : Step → Prop
  | .deliver ticket .ok =>
      ∃ waiting state, (ticket, waiting) ∈ core.inFlight ∧ waiting.lock? = none ∧
        core.view.state? waiting.key = some state ∧ state ≠ .viewing
  | _ => False

structure Core.Locked (core : Core) : Prop where
  held : ∀ ticket waiting state, (ticket, waiting) ∈ core.inFlight →
    waiting.lock? = some state → core.view.state? waiting.key = some state
  exclusive : ∀ ticket waiting ticket' waiting', (ticket, waiting) ∈ core.inFlight →
    (ticket', waiting') ∈ core.inFlight → waiting.lock? ≠ none → waiting'.lock? ≠ none →
      waiting.key = waiting'.key → ticket = ticket'

theorem Core.Locked.of_idle {core : Core} (idle : core.inFlight = []) : core.Locked := by
  constructor <;> simp [idle]

theorem Core.Locked.quiet {core : Core} (locked : core.Locked) {ticket : Nat} {waiting : Waiting}
    (member : (ticket, waiting) ∈ core.inFlight)
    (free : ∀ state, core.view.state? waiting.key = some state → state.isBusy = false) :
    waiting.lock? = none := by
  -- A row that is not busy is held by no call.
  cases lock : waiting.lock? with
  | none => rfl
  | some state =>
      have busy := Waiting.lock?_busy lock
      rw [free state (locked.held _ _ _ member lock)] at busy
      cases busy

theorem Core.Locked.settle {core : Core} (locked : core.Locked) (distinct : core.Distinct)
    {ticket other : Nat} {reply : Reply} {answered waiting : Waiting} {state : RowState}
    (onTime : ¬ core.Strays (.deliver ticket reply))
    (found : (ticket, answered) ∈ core.inFlight) (member : (other, waiting) ∈ core.inFlight)
    (different : other ≠ ticket) (lock : waiting.lock? = some state) :
    (answered.settle core.view reply).state? waiting.key = some state := by
  have row := locked.held other waiting state member lock
  by_cases same : waiting.key = answered.key
  · -- Both calls are for one row, which the remaining one holds.
    have unheld : answered.lock? = none := by
      by_contra holds
      exact different (locked.exclusive _ _ _ _ member found (by simp [lock]) holds same)
    cases reply with
    | failed cause => rwa [Waiting.settle_unheld unheld]
    | ok =>
        refine absurd ⟨answered, state, found, unheld, same ▸ row, ?_⟩ onTime
        rintro rfl
        cases Waiting.lock?_busy lock
  · rwa [Waiting.state?_settle_other distinct same]

theorem Shift.locked (shift : Shift before command after) (distinct : before.Distinct)
    (locked : before.Locked) (onTime : ¬ before.Strays command) : after.Locked := by
  cases shift with
  | stays _ _ calls keys kept =>
      constructor
      · intro ticket waiting state member lock
        rw [calls] at member
        exact (kept _ _ (Waiting.lock?_busy lock)).mpr (locked.held _ _ _ member lock)
      · intro ticket waiting ticket' waiting' member member'
        rw [calls] at member member'
        exact locked.exclusive _ _ _ _ member member'
  | issues _ _ issued calls keys free held others =>
      have member_iff : ∀ ticket waiting, (ticket, waiting) ∈ after.inFlight ↔
          (ticket, waiting) ∈ before.inFlight ∨ ticket = before.clock ∧ waiting = issued := by
        simp [calls]
      -- No earlier call holds the row that is taken now.
      have elsewhere : ∀ ticket waiting, (ticket, waiting) ∈ before.inFlight →
          waiting.lock? ≠ none → waiting.key ≠ issued.key := by
        intro ticket waiting member lock same
        exact lock (locked.quiet member (same ▸ free))
      constructor
      · intro ticket waiting state member lock
        rcases (member_iff _ _).mp member with earlier | ⟨_, rfl⟩
        · rw [others _ (elsewhere _ _ earlier (by simp [lock]))]
          exact locked.held _ _ _ earlier lock
        · exact held.trans lock
      · intro ticket waiting ticket' waiting' member member' lock lock' same
        rcases (member_iff _ _).mp member with earlier | ⟨here, rfl⟩ <;>
          rcases (member_iff _ _).mp member' with earlier' | ⟨here', rfl⟩
        · exact locked.exclusive _ _ _ _ earlier earlier' lock lock' same
        · exact absurd same (elsewhere _ _ earlier lock)
        · exact absurd same.symm (elsewhere _ _ earlier' lock')
        · rw [here, here']
  | delivers ticket reply _ answered found calls view =>
      have kept : ∀ ticket' waiting, (ticket', waiting) ∈ after.inFlight →
          (ticket', waiting) ∈ before.inFlight ∧ ticket' ≠ ticket := by
        simp [calls]
      constructor
      · intro ticket' waiting state member lock
        obtain ⟨earlier, different⟩ := kept _ _ member
        rw [view]
        exact locked.settle distinct onTime found earlier different lock
      · intro ticket' waiting ticket'' waiting' member member'
        exact locked.exclusive _ _ _ _ (kept _ _ member).1 (kept _ _ member').1

end CatalogueEditor
