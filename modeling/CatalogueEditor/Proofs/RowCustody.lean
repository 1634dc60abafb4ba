import CatalogueEditor.Proofs.RowLocks

/-!
Who may take a row out of its state, in sessions with any number of dialogs. Each session is watched
by a history of the step that put each row in its state. A step that takes a row from an operation
which still needs it is one thing only: the reply to an add that found no row, delivered when its
key has a row in use.
-/

namespace CatalogueEditor

/-- A session and, for each key, the number of the step that last changed the state of its row. -/
structure Watched where
  session : Session
  since : String → Option Nat

namespace Watched

def opening (messages : List (String × String)) (dialogs : Nat) : Watched :=
  ⟨.ofMessages messages dialogs, fun _ => none⟩

def core (watched : Watched) : Core := watched.session.core

def step (watched : Watched) (command : Step) : Watched where
  session := (watched.session.step command).1
  since key :=
    if (watched.session.step command).1.desk.view.state? key =
      watched.session.desk.view.state? key then watched.since key else some watched.session.clock

/-- The step delivers the reply to the call that put the row of the key in the state. -/
def Frees (watched : Watched) (key : String) (state : RowState) (command : Step) : Prop :=
  ∃ ticket reply waiting, command = .deliver ticket reply ∧
    (ticket, waiting) ∈ watched.session.inFlight ∧ waiting.key = key ∧
      waiting.lock? = some state ∧ watched.since key = some ticket

/-- What may take the row of a key out of a state. -/
def MayLeave (watched : Watched) (key : String) (command : Step) : RowState → Prop
  | .viewing => ∀ ticket reply, command ≠ .deliver ticket reply
  | .editing => command = .row key .delete ∨ ∃ candidate, command = .row key (.save candidate)
  | .confirmingDelete =>
      command = .row key .confirmDelete ∨ command = .row key .cancelDelete ∨
        ∃ other, other ≠ key ∧ command = .row other .delete ∧ watched.core.Accepts other .delete
  | .saving => watched.Frees key .saving command
  | .deleting => watched.Frees key .deleting command

/-- The step takes no row out of its state that it may not. -/
def Respects (watched : Watched) (command : Step) : Prop :=
  ∀ key old new, watched.session.desk.view.state? key = some old →
    (watched.step command).session.desk.view.state? key = some new → new ≠ old →
      watched.MayLeave key command old

/-- Every step of a run is as said. -/
def Always (holds : Watched → Step → Prop) : Watched → List Step → Prop
  | _, [] => True
  | watched, command :: rest => holds watched command ∧ Always holds (watched.step command) rest

end Watched

/-- What takes the row of a key out of a state. -/
inductive Departs (before : Core) (key : String) : RowState → Step → Prop
  | own (state : RowState) (action : RowAction) (accepted : state.accepts action = true) :
      Departs before key state (.row key action)
  | displaced (other : String) (apart : other ≠ key) (accepted : before.Accepts other .delete) :
      Departs before key .confirmingDelete (.row other .delete)
  | claimed (index : Nat) (written value : String) :
      Departs before key .viewing (.add index written value)
  | freed (state : RowState) (ticket : Nat) (reply : Reply) (waiting : Waiting)
      (found : (ticket, waiting) ∈ before.inFlight) (here : waiting.key = key)
      (held : waiting.lock? ≠ none ∨ reply = .ok) (used : state ≠ .viewing) :
      Departs before key state (.deliver ticket reply)

variable {before after : Core} {command : Step} {key : String} {old new : RowState}

theorem View.moved_setState {view : View} {changed : String} {state : RowState}
    (row : view.state? key = some old) (later : (view.setState changed state).state? key = some new)
    (moved : new ≠ old) : changed = key := by
  by_contra apart
  rw [View.state?_setState, if_neg (Ne.symm apart), row] at later
  cases later
  exact moved rfl

theorem Departs.ofRow {changed : String} {start state : RowState} {action : RowAction}
    (found : before.view.state? changed = some start) (accepted : start.accepts action = true)
    (row : before.view.state? key = some old)
    (later : (before.view.setState changed state).state? key = some new) (moved : new ≠ old) :
    Departs before key old (.row changed action) := by
  obtain rfl := View.moved_setState row later moved
  cases found.symm.trans row
  exact .own _ _ accepted

theorem Departs.ofPrompt {changed : String} {start : RowState}
    (found : before.view.state? changed = some start) (accepted : start.accepts .delete = true)
    (row : before.view.state? key = some old)
    (later : (Work.displace changed (before.view.setState changed .confirmingDelete)).state? key =
      some new)
    (moved : new ≠ old) : Departs before key old (.row changed .delete) := by
  by_cases here : changed = key
  · subst here
    cases found.symm.trans row
    exact .own _ _ accepted
  · have apart : key ≠ changed := Ne.symm here
    rw [View.state?_displace, View.state?_setState, if_neg apart, row, Option.map_some] at later
    by_cases waits : old = .confirmingDelete
    · subst waits
      exact .displaced changed here ⟨start, found, accepted⟩
    · rw [if_neg (not_and_of_not_right _ waits)] at later
      cases later
      exact absurd rfl moved

theorem Effect.departs (effect : Effect before command after)
    (distinct : before.Distinct) (row : before.view.state? key = some old)
    (later : after.view.state? key = some new) (moved : new ≠ old) :
    Departs before key old command := by
  cases effect with
  | idle | draft | addNew =>
      cases row.symm.trans later
      exact absurd rfl moved
  | edit changed found => exact .ofRow found rfl row later moved
  | save changed candidate found => exact .ofRow found rfl row later moved
  | confirm changed found => exact .ofRow found rfl row later moved
  | cancel changed found => exact .ofRow found rfl row later moved
  | prompt changed state found ready =>
      have accepted : state.accepts .delete = true := by
        rcases ready with rfl | rfl <;> rfl
      exact .ofPrompt found accepted row later moved
  | addLocked index written value dialog _ _ _ _ found =>
      obtain rfl := View.moved_setState row later moved
      cases found.symm.trans row
      exact .claimed index written value
  | deliver ticket reply waiting found =>
      have member := mem_of_lookup found
      rcases Waiting.state?_settle distinct later with ⟨here, rfl⟩ | ⟨kept, _⟩
      · refine .freed old ticket reply waiting member here.symm ?_ (Ne.symm moved)
        by_contra idle
        obtain ⟨unheld, refused⟩ := not_or.mp idle
        cases reply with
        | ok => exact refused rfl
        | failed cause =>
            rw [Waiting.settle_unheld (not_not.mp unheld)] at later
            cases row.symm.trans later
            exact moved rfl
      · cases row.symm.trans kept
        exact absurd rfl moved

namespace Watched

variable {watched : Watched}

/-- While no reply strays: locks are kept, and every lock is as old as its call. -/
structure Sound (watched : Watched) : Prop where
  distinct : watched.core.Distinct
  ticketed : watched.core.Ticketed
  locked : watched.core.Locked
  stamped : ∀ ticket waiting, (ticket, waiting) ∈ watched.core.inFlight →
    waiting.lock? ≠ none → watched.since waiting.key = some ticket

theorem since_step_kept (same : (watched.step command).core.view.state? key =
    watched.core.view.state? key) : (watched.step command).since key = watched.since key :=
  if_pos same

theorem since_step_moved (moved : (watched.step command).core.view.state? key ≠
    watched.core.view.state? key) :
    (watched.step command).since key = some watched.core.clock :=
  if_neg moved

theorem Sound.step (sound : watched.Sound) (onTime : ¬ watched.core.Strays command) :
    (watched.step command).Sound := by
  -- A lock that was kept keeps its stamp; a new one changed the state of its row.
  have effect : Effect watched.core command (watched.step command).core :=
    watched.session.step_effect command
  have shift := effect.shift
  have locked := shift.locked sound.distinct sound.locked onTime
  refine ⟨effect.distinct sound.distinct, effect.ticketed sound.ticketed, locked, ?_⟩
  intro ticket waiting member lock
  obtain ⟨state, held⟩ := Option.ne_none_iff_exists'.mp lock
  have row := locked.held ticket waiting state member held
  rcases shift.origin member with earlier | ⟨rfl, free⟩
  · have before := sound.locked.held ticket waiting state earlier held
    rw [since_step_kept (row.trans before.symm)]
    exact sound.stamped ticket waiting earlier lock
  · apply since_step_moved
    intro same
    have quiet := free state (same.symm.trans row)
    rw [Waiting.lock?_busy held] at quiet
    cases quiet

theorem opening_sound (messages : List (String × String)) (dialogs : Nat) :
    (opening messages dialogs).Sound where
  distinct := Session.ofMessages_distinct messages dialogs
  ticketed := .of_idle rfl
  locked := .of_idle rfl
  stamped := fun _ _ member => by cases member

theorem Sound.respects (sound : watched.Sound) (onTime : ¬ watched.core.Strays command) :
    watched.Respects command := by
  intro key old new row later moved
  have effect : Effect watched.core command (watched.step command).core :=
    watched.session.step_effect command
  cases effect.departs sound.distinct row later moved with
  | claimed index written value => exact fun _ _ => nofun
  | displaced other apart accepted => exact .inr (.inr ⟨other, apart, rfl, accepted⟩)
  | own _ action accepted =>
      cases old with
      | viewing => exact fun _ _ => nofun
      | editing =>
          cases action with
          | save candidate => exact .inr ⟨candidate, rfl⟩
          | delete => exact .inl rfl
          | edit | confirmDelete | cancelDelete => cases accepted
      | confirmingDelete =>
          cases action with
          | confirmDelete => exact .inl rfl
          | cancelDelete => exact .inr (.inl rfl)
          | edit | save | delete => cases accepted
      | saving | deleting => cases action <;> cases accepted
  | freed _ ticket reply waiting found here held used =>
      subst here
      cases lock : waiting.lock? with
      | none =>
          -- A reply to an add without a row: it strays if the row is in use.
          rcases held with held | rfl
          · exact absurd lock held
          · exact absurd ⟨waiting, old, found, lock, row, used⟩ onTime
      | some state =>
          cases (sound.locked.held ticket waiting state found lock).symm.trans row
          have stamp := sound.stamped ticket waiting found (by simp [lock])
          have frees : watched.Frees waiting.key old (.deliver ticket reply) :=
            ⟨ticket, reply, waiting, rfl, found, rfl, lock, stamp⟩
          cases old with
          | saving | deleting => exact frees
          | viewing | editing | confirmingDelete => cases Waiting.lock?_busy lock

theorem Sound.onTime (sound : watched.Sound) (respects : watched.Respects command) :
    ¬ watched.core.Strays command := by
  -- A reply that strays takes a row out of its state although it holds none.
  intro strays
  cases command with
  | row | openDialog | closeDialog | add | onScreen | look => exact strays
  | deliver ticket reply =>
    cases reply with
    | failed cause => exact strays
    | ok =>
      obtain ⟨waiting, state, found, unheld, row, used⟩ := strays
      have later : (watched.step (.deliver ticket .ok)).core.view.state? waiting.key =
          some .viewing := by
        have effect : Effect watched.core (.deliver ticket .ok)
            (watched.step (.deliver ticket .ok)).core := watched.session.step_effect _
        rcases effect.delivered with ⟨missing, _⟩ | ⟨waiting', found', next⟩
        · cases (sound.ticketed.lookup found).symm.trans missing
        · cases (sound.ticketed.lookup found).symm.trans found'
          rw [next]
          exact Waiting.state?_settle_unheld unheld
      have holdsNone : ¬ watched.Frees waiting.key state (.deliver ticket .ok) := by
        rintro ⟨ticket', reply, waiting', ⟨⟩, found', _, lock, _⟩
        cases sound.ticketed.same found found'
        cases unheld.symm.trans lock
      have may := respects waiting.key state .viewing row later (Ne.symm used)
      cases state with
      | viewing => exact used rfl
      | editing => rcases may with same | ⟨candidate, same⟩ <;> cases same
      | confirmingDelete =>
          rcases may with same | same | ⟨other, _, same, _⟩ <;> cases same
      | saving | deleting => exact holdsNone may

theorem always_iff {Keeps : Watched → Prop} {first second : Watched → Step → Prop}
    (agree : ∀ watched command, Keeps watched → (first watched command ↔ second watched command))
    (keeps : ∀ watched command, Keeps watched → second watched command →
      Keeps (watched.step command))
    (start : Keeps watched) (steps : List Step) :
    Always first watched steps ↔ Always second watched steps := by
  induction steps generalizing watched with
  | nil => exact Iff.rfl
  | cons command rest ih =>
      constructor
      · rintro ⟨here, later⟩
        have here := (agree watched command start).mp here
        exact ⟨here, (ih (keeps watched command start here)).mp later⟩
      · rintro ⟨here, later⟩
        exact ⟨(agree watched command start).mpr here,
          (ih (keeps watched command start here)).mpr later⟩

/-- No operation takes a row away from another one, however many dialogs a session has, exactly if
no reply strays. -/
theorem respects_iff_onTime (messages : List (String × String)) (dialogs : Nat)
    (steps : List Step) :
    Always Respects (opening messages dialogs) steps ↔
      Always (fun watched command => ¬ watched.core.Strays command) (opening messages dialogs)
        steps := by
  refine always_iff ?_ ?_ (opening_sound messages dialogs) steps
  · intro watched command sound
    exact ⟨sound.onTime, sound.respects⟩
  · intro watched command sound onTime
    exact sound.step onTime

/-- Two dialogs add one key. The second reply comes while the row of the first is being saved, and
frees it. -/
theorem second_add_frees_saving :
    ¬ Always Respects (opening [] 2)
      [.add 0 "k" "A", .add 1 "k" "B", .deliver 0 .ok, .row "k" .edit,
        .row "k" (.save "C"), .deliver 1 .ok] := by
  rintro ⟨_, _, _, _, _, respects, _⟩
  have may := respects "k" .saving .viewing (by decide +kernel) (by decide +kernel) (by decide)
  obtain ⟨ticket, reply, waiting, ⟨⟩, _, _, _, since⟩ := may
  -- The row is held since step 4, by the save, and not by the add of step 1.
  have other : (some 1 : Option Nat) = some 4 := since.symm.trans (by decide +kernel)
  cases other

end Watched

end CatalogueEditor
