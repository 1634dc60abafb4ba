import Mathlib.Logic.Function.Basic
import CatalogueEditor.Proofs.SingleDialog

/-!
A session with one dialog beside the endpoint that carries out its calls. The endpoint keeps the
value of each key; it carries out a call, or refuses it, at any moment between the step that issued
it and the delivery of its reply. The two sides agree on every key that no call in flight is for.
-/

namespace CatalogueEditor

/-- What the endpoint holds: the value of each key. -/
abbrev Holdings : Type := String → Option String

namespace Call

/-- The value of the key once the call has been carried out. -/
def content : Call → Option String
  | save _ value => some value
  | add _ value => some value
  | remove _ => none

/-- What a call needs: a key that is saved must be there. -/
def Allowed (holdings : Holdings) : Call → Prop
  | save key _ => holdings key ≠ none
  | _ => True

instance (holdings : Holdings) (call : Call) : Decidable (call.Allowed holdings) := by
  cases call <;> unfold Allowed <;> infer_instance

end Call

/-- A session, what the endpoint holds, and the replies that the endpoint has given so far. -/
structure World where
  session : Session
  holdings : Holdings
  replies : List (Nat × Reply)

inductive Move
  | user (command : Step)
  /-- The endpoint comes to a call. The cause is what it answers if the call is not carried out. -/
  | process (ticket : Nat) (willing : Bool) (cause : RequestError)
  | deliver (ticket : Nat)

namespace World

def opening (messages : List (String × String)) : World :=
  ⟨.ofMessages messages 1, (View.ofMessages messages).value?, []⟩

/-- The endpoint carries out a call and replies ok, or replies the cause of a failure. -/
def answer (world : World) (ticket : Nat) (call : Call) (willing : Bool) (cause : RequestError) :
    World :=
  if willing = true ∧ call.Allowed world.holdings then
    { world with
      holdings := Function.update world.holdings call.key call.content
      replies := world.replies ++ [(ticket, .ok)] }
  else { world with replies := world.replies ++ [(ticket, .failed cause)] }

def move (world : World) : Move → World
  -- Replies come from the endpoint only.
  | .user (.deliver _ _) => world
  | .user command => { world with session := (world.session.step command).1 }
  | .process ticket willing cause =>
      match world.session.inFlight.lookup ticket, world.replies.lookup ticket with
      | some waiting, none => world.answer ticket waiting.call willing cause
      | _, _ => world
  | .deliver ticket =>
      match world.replies.lookup ticket with
      | some reply => { world with session := (world.session.step (.deliver ticket reply)).1 }
      | none => world

def run (world : World) : List Move → World
  | [] => world
  | move :: rest => (world.move move).run rest

end World

/-! Values change with replies only. -/

namespace Waiting

variable {view : View} {waiting : Waiting} {reply : Reply} {key : String}

theorem value?_settle_failed {cause : RequestError} :
    (waiting.settle view (.failed cause)).value? key = view.value? key := by
  cases waiting with
  | save | remove => exact View.value?_setState _
  | add index added value locked =>
      cases locked
      · rfl
      · exact View.value?_setState _

theorem value?_settle_other (distinct : view.keys.Nodup) (other : key ≠ waiting.key) :
    (waiting.settle view reply).value? key = view.value? key := by
  cases reply with
  | failed cause => exact value?_settle_failed
  | ok =>
      cases waiting with
      | save => exact (View.value?_store _).trans (if_neg other)
      | add => exact (View.value?_put _).trans (if_neg other)
      | remove => exact (View.value?_erase distinct).trans (if_neg other)

theorem value?_settle_ok (distinct : view.keys.Nodup)
    (held : ∀ state, waiting.lock? = some state → view.state? waiting.key = some state) :
    (waiting.settle view .ok).value? waiting.key = waiting.call.content := by
  -- After ok the row has what the call asked for. A save finds the row that it holds.
  cases waiting with
  | add => exact (View.value?_put _).trans (if_pos rfl)
  | remove => exact (View.value?_erase distinct).trans (if_pos rfl)
  | save saved candidate =>
      have row := held .saving rfl
      have present : view.value? saved ≠ none := by
        rw [Ne, View.value?_eq_none_iff, ← View.state?_eq_none_iff]
        exact fun absent => by cases absent.symm.trans row
      obtain ⟨value, found⟩ := Option.ne_none_iff_exists'.mp present
      refine (View.value?_store _).trans ?_
      simp [key, call, Call.key, Call.content, found]

end Waiting

variable {before after : Core} {command : Step}

theorem Effect.value? (effect : Effect before command after)
    (own : ∀ ticket reply, command ≠ .deliver ticket reply) (key : String) :
    after.view.value? key = before.view.value? key := by
  cases effect with
  | deliver ticket reply => exact absurd rfl (own ticket reply)
  | idle | draft | addNew => rfl
  | prompt => exact View.value?_displace.trans (View.value?_setState _)
  | edit | save | confirm | cancel | addLocked => exact View.value?_setState _

theorem Effect.grows (effect : Effect before command after)
    (own : ∀ ticket reply, command ≠ .deliver ticket reply) :
    before.inFlight ⊆ after.inFlight ∧
      ∀ ticket waiting, (ticket, waiting) ∈ after.inFlight →
        (ticket, waiting) ∈ before.inFlight ∨ ticket = before.clock := by
  -- A step without a reply keeps the calls in flight; one that it adds has its own number.
  cases effect with
  | deliver ticket reply => exact absurd rfl (own ticket reply)
  | save | confirm | addNew | addLocked =>
      refine ⟨List.subset_append_left _ _, fun ticket waiting member => ?_⟩
      exact (Core.mem_issue.mp member).imp id And.left
  | _ => exact ⟨List.Subset.refl _, fun _ _ => .inl⟩

/-- What the two sides agree on. A call that was carried out is ahead of the view by its content;
any other call leaves them level, as does a key that no call is for. -/
structure Core.Agrees (core : Core) (holdings : Holdings) (replies : List (Nat × Reply)) :
    Prop where
  guarded : core.Guarded
  earlier : ∀ ticket reply, (ticket, reply) ∈ replies → ticket < core.clock
  settled : ∀ key, (∀ ticket waiting, (ticket, waiting) ∈ core.inFlight → waiting.key ≠ key) →
    core.view.value? key = holdings key
  ahead : ∀ ticket waiting, (ticket, waiting) ∈ core.inFlight →
    replies.lookup ticket = some .ok → holdings waiting.key = waiting.call.content
  level : ∀ ticket waiting, (ticket, waiting) ∈ core.inFlight →
    replies.lookup ticket ≠ some .ok → core.view.value? waiting.key = holdings waiting.key

namespace Core.Agrees

variable {core : Core} {holdings : Holdings} {replies : List (Nat × Reply)}

theorem unanswered (agrees : core.Agrees holdings replies) :
    replies.lookup core.clock = none := by
  rw [List.lookup_eq_none_iff]
  rintro ⟨ticket, reply⟩ member
  have := agrees.earlier ticket reply member
  simp only [bne_iff_ne, ne_eq]
  omega

theorem user (agrees : before.Agrees holdings replies) (effect : Effect before command after)
    (own : ∀ ticket reply, command ≠ .deliver ticket reply) : after.Agrees holdings replies := by
  have guarded := effect.guarded agrees.guarded
  have values := effect.value? own
  have clock := effect.clock
  obtain ⟨kept, origin⟩ := effect.grows own
  refine ⟨guarded, ?_, ?_, ?_, ?_⟩
  · intro ticket reply member
    have := agrees.earlier ticket reply member
    omega
  · intro key idle
    exact (values key).trans (agrees.settled key fun _ _ member => idle _ _ (kept member))
  · intro ticket waiting member ok
    rcases origin ticket waiting member with old | rfl
    · exact agrees.ahead ticket waiting old ok
    · cases agrees.unanswered.symm.trans ok
  · intro ticket waiting member pending
    refine (values _).trans ?_
    rcases origin ticket waiting member with old | rfl
    · exact agrees.level ticket waiting old pending
    · -- The new call is the only one for its key, so the sides were settled there.
      apply agrees.settled
      intro ticket' other old same
      obtain rfl := guarded.same_ticket (kept old) member same
      exact absurd (agrees.guarded.ticketed.earlier _ other old) (Nat.lt_irrefl _)

theorem deliver {ticket : Nat} {reply : Reply} (agrees : before.Agrees holdings replies)
    (effect : Effect before (.deliver ticket reply) after)
    (replied : replies.lookup ticket = some reply) : after.Agrees holdings replies := by
  -- A reply closes the gap of its call and touches no other row.
  have guarded := agrees.guarded
  have later := effect.guarded guarded
  have earlier : ∀ ticket' reply', (ticket', reply') ∈ replies → ticket' < after.clock := by
    intro ticket' reply' member
    have := agrees.earlier ticket' reply' member
    have := effect.clock
    omega
  rcases effect.delivered with ⟨_, rfl⟩ | ⟨waiting, found, rfl⟩
  · exact ⟨later, earlier, agrees.settled, agrees.ahead, agrees.level⟩
  have member := mem_of_lookup found
  -- The key of a call that is still in flight is another one.
  have others : ∀ ticket' other, (ticket', other) ∈ before.inFlight.filter (·.1 != ticket) →
      (ticket', other) ∈ before.inFlight ∧ other.key ≠ waiting.key := by
    intro ticket' other kept
    obtain ⟨old, different⟩ := List.mem_filter.mp kept
    refine ⟨old, fun same => ?_⟩
    obtain rfl := guarded.same_ticket old member same
    simp at different
  refine ⟨later, earlier, fun key idle => ?_, ?_, ?_⟩
  · by_cases same : key = waiting.key
    · subst same
      cases reply with
      | ok =>
          have content := Waiting.value?_settle_ok guarded.distinct fun state lock =>
            guarded.locked.held ticket waiting state member lock
          exact content.trans (agrees.ahead ticket waiting member replied).symm
      | failed cause =>
          refine Waiting.value?_settle_failed.trans (agrees.level ticket waiting member ?_)
          simp [replied]
    · refine (Waiting.value?_settle_other guarded.distinct same).trans (agrees.settled key ?_)
      intro ticket' other old here
      refine idle ticket' other (List.mem_filter.mpr ⟨old, ?_⟩) here
      have different : ticket' ≠ ticket := by
        rintro rfl
        cases guarded.ticketed.same old member
        exact same here.symm
      simpa using different
  · intro ticket' other kept ok
    exact agrees.ahead ticket' other (others _ _ kept).1 ok
  · intro ticket' other kept pending
    obtain ⟨old, apart⟩ := others _ _ kept
    exact (Waiting.value?_settle_other guarded.distinct apart).trans
      (agrees.level ticket' other old pending)

theorem lookup_answered {ticket : Nat} {reply : Reply} (unanswered : replies.lookup ticket = none) :
    (replies ++ [(ticket, reply)]).lookup ticket = some reply := by
  simp [List.lookup_append, unanswered]

theorem lookup_other {ticket other : Nat} {reply : Reply} (apart : other ≠ ticket) :
    (replies ++ [(ticket, reply)]).lookup other = replies.lookup other := by
  have unequal : (other == ticket) = false := beq_false_of_ne apart
  simp [List.lookup_append, List.lookup_cons, unequal]

section Answer
variable {ticket : Nat} {waiting : Waiting} (agrees : core.Agrees holdings replies)
  (found : (ticket, waiting) ∈ core.inFlight)
include agrees found

theorem earlier_answered (reply : Reply) (other : Nat) (answer : Reply)
    (member : (other, answer) ∈ replies ++ [(ticket, reply)]) : other < core.clock := by
  rcases List.mem_append.mp member with old | new
  · exact agrees.earlier other answer old
  · cases List.mem_singleton.mp new
    exact agrees.guarded.ticketed.earlier ticket waiting found

variable (unanswered : replies.lookup ticket = none)
include unanswered

/-- A call that is carried out changes its key only, and no other call in flight is for that. -/
theorem carriedOut :
    core.Agrees (Function.update holdings waiting.key waiting.call.content)
      (replies ++ [(ticket, .ok)]) := by
  have guarded := agrees.guarded
  have apart : ∀ other call, (other, call) ∈ core.inFlight → other ≠ ticket →
      call.key ≠ waiting.key :=
    fun _ _ member different here => different (guarded.same_ticket member found here)
  refine ⟨guarded, agrees.earlier_answered found .ok, ?_, ?_, ?_⟩
  · intro key idle
    have different : key ≠ waiting.key := fun same => idle _ _ found same.symm
    exact (agrees.settled key idle).trans (Function.update_of_ne different _ _).symm
  · intro other call member ok
    by_cases same : other = ticket
    · subst same
      cases guarded.ticketed.same member found
      exact Function.update_self _ _ _
    · rw [lookup_other same] at ok
      rw [Function.update_of_ne (apart other call member same)]
      exact agrees.ahead other call member ok
  · intro other call member pending
    have same : other ≠ ticket := by
      rintro rfl
      exact pending (lookup_answered unanswered)
    rw [lookup_other same] at pending
    rw [Function.update_of_ne (apart other call member same)]
    exact agrees.level other call member pending

theorem refused (cause : RequestError) :
    core.Agrees holdings (replies ++ [(ticket, .failed cause)]) := by
  refine ⟨agrees.guarded, agrees.earlier_answered found _, agrees.settled, ?_, ?_⟩
  · intro other call member ok
    have same : other ≠ ticket := by
      rintro rfl
      cases (lookup_answered unanswered).symm.trans ok
    rw [lookup_other same] at ok
    exact agrees.ahead other call member ok
  · intro other call member pending
    apply agrees.level other call member
    intro ok
    by_cases same : other = ticket
    · cases unanswered.symm.trans (same ▸ ok)
    · exact pending ((lookup_other same).trans ok)

end Answer

end Core.Agrees

namespace World

variable {world : World}

def Agrees (world : World) : Prop := world.session.core.Agrees world.holdings world.replies

theorem Agrees.process (agrees : world.Agrees) {ticket : Nat} {waiting : Waiting}
    (found : (ticket, waiting) ∈ world.session.inFlight)
    (unanswered : world.replies.lookup ticket = none) (willing : Bool) (cause : RequestError) :
    (world.answer ticket waiting.call willing cause).Agrees := by
  unfold answer
  split
  · exact Core.Agrees.carriedOut agrees found unanswered
  · exact Core.Agrees.refused agrees found unanswered cause

theorem Agrees.move (agrees : world.Agrees) (move : Move) : (world.move move).Agrees := by
  cases move with
  | user command =>
      have step := world.session.step_effect command
      cases command with
      | deliver => exact agrees
      | _ => exact Core.Agrees.user agrees step fun _ _ => nofun
  | process ticket willing cause =>
      unfold World.move
      dsimp only
      split
      · rename_i waiting found unanswered
        exact agrees.process (mem_of_lookup found) unanswered willing cause
      · exact agrees
  | deliver ticket =>
      unfold World.move
      dsimp only
      split
      · rename_i reply replied
        exact Core.Agrees.deliver agrees (world.session.step_effect _) replied
      · exact agrees

theorem Agrees.run (agrees : world.Agrees) (moves : List Move) : (world.run moves).Agrees := by
  induction moves generalizing world with
  | nil => exact agrees
  | cons move rest ih => exact ih (agrees.move move)

theorem opening_agrees (messages : List (String × String)) : (opening messages).Agrees where
  guarded := Session.ofMessages_guarded messages
  earlier := fun _ _ member => by cases member
  settled := fun _ _ => rfl
  ahead := fun _ _ member => by cases member
  level := fun _ _ member => by cases member

/-- However the user, the endpoint and the replies take turns, both sides hold the same for every
key that no call in flight is for, so the same catalogue when nothing is in flight. -/
theorem same_catalogue (messages : List (String × String)) (moves : List Move) :
    let world := (opening messages).run moves
    (∀ key, (∀ ticket waiting, (ticket, waiting) ∈ world.session.inFlight →
      waiting.call.key ≠ key) → world.session.desk.view.value? key = world.holdings key) ∧
    (world.session.inFlight = [] → world.session.desk.view.value? = world.holdings) := by
  intro world
  have agrees : world.Agrees := (opening_agrees messages).run moves
  refine ⟨agrees.settled, fun idle => funext fun key => agrees.settled key ?_⟩
  intro ticket waiting member
  have nothing : world.session.core.inFlight = [] := idle
  simp [nothing] at member

end World

end CatalogueEditor
