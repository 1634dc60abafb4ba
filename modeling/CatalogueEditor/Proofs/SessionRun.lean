import CatalogueEditor.Proofs.StepEffect

/-!
Runs of a session, and what they keep whatever the order of the steps: keys of the view are
distinct, a ticket names one call in flight, and a dialog is submitting while its add is in flight.
-/

namespace CatalogueEditor

def Session.run (session : Session) : List Step → Session
  | [] => session
  | command :: rest => (session.step command).1.run rest

theorem Session.run_keeps {Keeps : Core → Prop}
    (keeps : ∀ before command after, Effect before command after → Keeps before → Keeps after)
    (session : Session) (steps : List Step) (start : Keeps session.core) :
    Keeps (session.run steps).core := by
  induction steps generalizing session with
  | nil => exact start
  | cons command rest ih => exact ih _ (keeps _ _ _ (session.step_effect command) start)

/-- A page that was just opened, with so many dialogs. -/
def Session.ofMessages (messages : List (String × String)) (dialogs : Nat) : Session :=
  .opening (.ofMessages messages) dialogs

variable {before after : Core} {command : Step}

/-! Keys. -/

def Core.Distinct (core : Core) : Prop := core.view.keys.Nodup

theorem Session.ofMessages_distinct (messages : List (String × String)) (dialogs : Nat) :
    (ofMessages messages dialogs).core.Distinct := (View.ofMessages_fresh messages).1

theorem Waiting.settle_distinct (waiting : Waiting) (reply : Reply) {view : View}
    (distinct : view.keys.Nodup) : (waiting.settle view reply).keys.Nodup := by
  cases waiting with
  | save key candidate => cases reply <;> simpa [settle] using distinct
  | remove key =>
      cases reply with
      | ok => simpa [settle] using distinct.erase key
      | failed cause => simpa [settle] using distinct
  | add index key value locked =>
      cases reply with
      | ok => exact View.nodup_put distinct value
      | failed cause => cases locked <;> simpa [settle] using distinct

theorem Effect.distinct (effect : Effect before command after) (distinct : before.Distinct) :
    after.Distinct := by
  unfold Core.Distinct at *
  cases effect with
  | deliver ticket reply waiting found => exact waiting.settle_distinct reply distinct
  | _ => simpa [Core.tick, Core.issue, Core.setView, Core.setDialog] using distinct

/-! Tickets. -/

/-- A ticket is the number of an earlier step and names one call in flight. -/
structure Core.Ticketed (core : Core) : Prop where
  unique : (core.inFlight.map Prod.fst).Nodup
  earlier : ∀ ticket waiting, (ticket, waiting) ∈ core.inFlight → ticket < core.clock

theorem Core.Ticketed.of_idle {core : Core} (idle : core.inFlight = []) : core.Ticketed := by
  constructor <;> simp [idle]

theorem Effect.clock (effect : Effect before command after) : after.clock = before.clock + 1 := by
  cases effect <;> rfl

/-- A step leaves the calls in flight, adds one with its own number, or takes one away. -/
theorem Effect.calls (effect : Effect before command after) :
    after.inFlight = before.inFlight ∨
    (∃ waiting, after.inFlight = before.inFlight ++ [(before.clock, waiting)]) ∨
    ∃ ticket, after.inFlight = before.inFlight.filter (·.1 != ticket) := by
  cases effect with
  | save | confirm | addNew | addLocked => exact .inr (.inl ⟨_, rfl⟩)
  | deliver ticket => exact .inr (.inr ⟨ticket, rfl⟩)
  | _ => exact .inl rfl

/-- A call in flight was there before, or the step sent it. -/
theorem Effect.origin (effect : Effect before command after) {ticket : Nat} {waiting : Waiting}
    (member : (ticket, waiting) ∈ after.inFlight) :
    (ticket, waiting) ∈ before.inFlight ∨
      (ticket = before.clock ∧ after.inFlight = before.inFlight ++ [(before.clock, waiting)]) := by
  rcases effect.calls with same | ⟨sent, calls⟩ | ⟨gone, calls⟩
  · exact .inl (same ▸ member)
  · rw [calls, List.mem_append, List.mem_singleton] at member
    rcases member with earlier | ⟨⟨⟩⟩
    · exact .inl earlier
    · exact .inr ⟨rfl, calls⟩
  · rw [calls] at member
    exact .inl (List.mem_filter.mp member).1

theorem Effect.ticketed (effect : Effect before command after) (ticketed : before.Ticketed) :
    after.Ticketed where
  unique := by
    rcases effect.calls with same | ⟨waiting, calls⟩ | ⟨gone, calls⟩
    · rw [same]
      exact ticketed.unique
    · rw [calls, List.map_append]
      apply ticketed.unique.append (List.nodup_singleton _)
      intro ticket member fresh
      obtain ⟨⟨_, old⟩, found, rfl⟩ := List.mem_map.mp member
      have bound := ticketed.earlier _ old found
      have same := List.mem_singleton.mp fresh
      simp only at same
      omega
    · rw [calls]
      exact ticketed.unique.sublist (List.filter_sublist.map _)
  earlier := by
    intro ticket waiting member
    have clock := effect.clock
    rcases effect.origin member with old | ⟨here, _⟩
    · have := ticketed.earlier ticket waiting old
      omega
    · omega

theorem Core.Ticketed.same {core : Core} (ticketed : core.Ticketed) {ticket : Nat}
    {first second : Waiting} (one : (ticket, first) ∈ core.inFlight)
    (other : (ticket, second) ∈ core.inFlight) : first = second := by
  have := List.inj_on_of_nodup_map ticketed.unique one other rfl
  exact congrArg Prod.snd this

theorem mem_of_lookup {calls : List (Nat × Waiting)} {ticket : Nat} {waiting : Waiting}
    (found : calls.lookup ticket = some waiting) : (ticket, waiting) ∈ calls := by
  obtain ⟨front, back, whole, _⟩ := List.lookup_eq_some_iff.mp found
  simp [whole]

theorem Core.Ticketed.lookup {core : Core} (ticketed : core.Ticketed) {ticket : Nat}
    {waiting : Waiting} (member : (ticket, waiting) ∈ core.inFlight) :
    core.inFlight.lookup ticket = some waiting := by
  cases found : core.inFlight.lookup ticket with
  | none =>
      have missing := List.lookup_eq_none_iff.mp found _ member
      simp at missing
  | some other => rw [ticketed.same (mem_of_lookup found) member]

/-! Dialogs. -/

/-- The dialog that an operation came from. -/
def Waiting.dialog? : Waiting → Option Nat
  | add index _ _ _ => some index
  | _ => none

/-- The dialog as it waits for the reply to its add. -/
def Waiting.draft? : Waiting → Option Dialog
  | add _ key value _ => some ⟨.submitting, key, value, false, false⟩
  | _ => none

/-- The dialog of an add in flight is submitting what the add carries, and waits for no other. -/
structure Core.Submitting (core : Core) : Prop where
  draft : ∀ ticket waiting index, (ticket, waiting) ∈ core.inFlight →
    waiting.dialog? = some index → core.dialogs[index]? = waiting.draft?
  once : ∀ ticket waiting ticket' waiting' index, (ticket, waiting) ∈ core.inFlight →
    (ticket', waiting') ∈ core.inFlight → waiting.dialog? = some index →
      waiting'.dialog? = some index → ticket = ticket'

theorem Core.Submitting.of_idle {core : Core} (idle : core.inFlight = []) : core.Submitting := by
  constructor <;> simp [idle]

theorem Waiting.draft?_phase {waiting : Waiting} {dialog : Dialog}
    (draft : waiting.draft? = some dialog) : dialog.phase = .submitting := by
  cases waiting <;> cases draft
  rfl

theorem Drafts.free {index : Nat} {dialog next : Dialog}
    (drafts : Drafts before index dialog command next) : dialog.phase ≠ .submitting := by
  cases drafts with
  | opened closed => simp [closed]
  | closed free | keyRequired _ _ free | invalidContent _ _ free | rowTaken _ _ free => exact free

theorem Core.Submitting.other {core : Core} (submitting : core.Submitting) {index : Nat}
    {dialog : Dialog} (found : core.dialogs[index]? = some dialog)
    (free : dialog.phase ≠ .submitting) {ticket : Nat} {waiting : Waiting}
    (member : (ticket, waiting) ∈ core.inFlight) : waiting.dialog? ≠ some index := by
  -- A dialog that is not submitting is not the one of an add in flight.
  intro same
  have draft := submitting.draft ticket waiting index member same
  exact free (Waiting.draft?_phase (draft.symm.trans found))

theorem Core.mem_issue {core : Core} {issued waiting : Waiting} {ticket : Nat} :
    (ticket, waiting) ∈ (core.issue issued).inFlight ↔
      (ticket, waiting) ∈ core.inFlight ∨ ticket = core.clock ∧ waiting = issued := by
  simp [Core.issue]

namespace Core.Submitting

variable {core : Core} {index : Nat} {dialog : Dialog}

theorem setDialog (submitting : core.Submitting) (next : Dialog)
    (found : core.dialogs[index]? = some dialog) (free : dialog.phase ≠ .submitting) :
    (core.tick.setDialog index next).Submitting := by
  refine ⟨fun ticket waiting place member belongs => ?_, submitting.once⟩
  have different : index ≠ place := by
    rintro rfl
    exact submitting.other found free member belongs
  simpa [Core.setDialog, Core.tick, different] using
    submitting.draft ticket waiting place member belongs

theorem issue (submitting : core.Submitting) (waiting : Waiting)
    (rowOnly : waiting.dialog? = none) : (core.issue waiting).Submitting := by
  have old : ∀ ticket other place, (ticket, other) ∈ (core.issue waiting).inFlight →
      other.dialog? = some place → (ticket, other) ∈ core.inFlight := by
    intro ticket other place member belongs
    rcases Core.mem_issue.mp member with earlier | ⟨_, rfl⟩
    · exact earlier
    · rw [rowOnly] at belongs
      cases belongs
  constructor
  · intro ticket other place member belongs
    exact submitting.draft ticket other place (old _ _ _ member belongs) belongs
  · intro ticket other ticket' other' place member member' belongs belongs'
    exact submitting.once _ _ _ _ _ (old _ _ _ member belongs) (old _ _ _ member' belongs') belongs
      belongs'

theorem submit (submitting : core.Submitting) (waiting : Waiting) (draft : Dialog)
    (found : core.dialogs[index]? = some dialog) (free : dialog.phase ≠ .submitting)
    (sends : waiting.dialog? = some index) (drafted : waiting.draft? = some draft) :
    ((core.issue waiting).setDialog index draft).Submitting := by
  have bound : index < core.dialogs.length := (List.getElem?_eq_some_iff.mp found).1
  constructor
  · intro ticket other place member belongs
    rcases Core.mem_issue.mp member with earlier | ⟨_, rfl⟩
    · have different : index ≠ place := by
        rintro rfl
        exact submitting.other found free earlier belongs
      simpa [Core.setDialog, Core.issue, Core.tick, different] using
        submitting.draft ticket other place earlier belongs
    · cases sends.symm.trans belongs
      simp [Core.setDialog, Core.issue, Core.tick, bound, drafted]
  · intro ticket other ticket' other' place member member' belongs belongs'
    rcases Core.mem_issue.mp member with earlier | ⟨here, rfl⟩ <;>
      rcases Core.mem_issue.mp member' with earlier' | ⟨here', rfl⟩
    · exact submitting.once _ _ _ _ _ earlier earlier' belongs belongs'
    · cases sends.symm.trans belongs'
      exact absurd belongs (submitting.other found free earlier)
    · cases sends.symm.trans belongs
      exact absurd belongs' (submitting.other found free earlier')
    · rw [here, here']

theorem deliver (submitting : core.Submitting) (ticket : Nat) (reply : Reply) (waiting : Waiting)
    (member : (ticket, waiting) ∈ core.inFlight) (view : View) (clock : Nat) :
    Core.Submitting ⟨view, waiting.settleDialogs core.dialogs reply,
      core.inFlight.filter (·.1 != ticket), clock⟩ := by
  -- A reply touches the dialog of its own add only.
  constructor
  · intro other rest place kept belongs
    obtain ⟨inFlight, different⟩ := List.mem_filter.mp kept
    have elsewhere : waiting.dialog? ≠ some place := by
      intro same
      have := submitting.once _ _ _ _ _ inFlight member belongs same
      simp [this] at different
    rw [← submitting.draft other rest place inFlight belongs]
    cases waiting with
    | save | remove => rfl
    | add index key value locked =>
        have apart : index ≠ place := fun same => elsewhere (congrArg some same)
        cases reply <;> simp [Waiting.settleDialogs, apart]
  · intro _ _ _ _ _ kept kept'
    exact submitting.once _ _ _ _ _ (List.mem_filter.mp kept).1 (List.mem_filter.mp kept').1

end Core.Submitting

theorem Effect.submitting (effect : Effect before command after)
    (submitting : before.Submitting) : after.Submitting := by
  cases effect with
  | idle | edit | prompt | cancel => exact ⟨submitting.draft, submitting.once⟩
  | save key candidate =>
      have issued := submitting.issue (.save key candidate) rfl
      exact ⟨issued.draft, issued.once⟩
  | confirm key =>
      have issued := submitting.issue (.remove key) rfl
      exact ⟨issued.draft, issued.once⟩
  | draft _ index dialog next found drafts => exact submitting.setDialog next found drafts.free
  | addNew index key value dialog found free =>
      exact submitting.submit (.add index (Text.trim key) value false) _ found free rfl rfl
  | addLocked index key value dialog found free =>
      have issued := submitting.submit (.add index (Text.trim key) value true) _ found free rfl rfl
      exact ⟨issued.draft, issued.once⟩
  | deliver ticket reply waiting found =>
      exact submitting.deliver ticket reply waiting (mem_of_lookup found) _ _

theorem Effect.dialogs_length (effect : Effect before command after) :
    after.dialogs.length = before.dialogs.length := by
  cases effect with
  | draft | addNew | addLocked => exact List.length_set
  | deliver ticket reply waiting =>
      cases waiting <;> cases reply <;> simp [Waiting.settleDialogs]
  | _ => rfl

end CatalogueEditor
