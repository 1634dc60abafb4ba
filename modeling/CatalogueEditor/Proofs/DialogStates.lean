import CatalogueEditor.Proofs.CheckedContent
import CatalogueEditor.Proofs.Completion

/-!
The add dialogs of a session, any number of them. What a dialog shows fits its phase; it is submitting
exactly while one add of its drafts is in flight. The reply empties it, or leaves it open with its
drafts, from which the same call can be made again.
-/

namespace CatalogueEditor

/-- What a dialog shows fits its phase, and a hint is about the drafts that it is shown with. -/
structure Dialog.Sound (dialog : Dialog) : Prop where
  closed : dialog.phase = .closed → dialog = .empty
  trimmed : Text.trim dialog.key = dialog.key
  keyHint : dialog.keyError = true → dialog.phase = .opened ∧ dialog.key = ""
  contentHint : dialog.contentError = true → dialog.phase = .opened ∧ dialog.key ≠ "" ∧
    ∃ problem, Markup.validate dialog.value = .error problem

namespace Dialog

theorem empty_sound : empty.Sound where
  closed _ := rfl
  trimmed := rfl
  keyHint := nofun
  contentHint := nofun

/-- A dialog in use that shows no hint is sound if its key is trimmed. -/
theorem Sound.of_plain {phase : DialogPhase} {key value : String} (used : phase ≠ .closed)
    (trimmed : Text.trim key = key) : Sound ⟨phase, key, value, false, false⟩ where
  closed closed := absurd closed used
  trimmed := trimmed
  keyHint := nofun
  contentHint := nofun

theorem Sound.hints_apart {dialog : Dialog} (sound : dialog.Sound) :
    ¬ (dialog.keyError = true ∧ dialog.contentError = true) := by
  rintro ⟨keyError, contentError⟩
  exact (sound.contentHint contentError).2.1 (sound.keyHint keyError).2

end Dialog

variable {before after : Core} {command : Step} {index : Nat}

theorem Drafts.sound {dialog next : Dialog} (drafts : Drafts before index dialog command next)
    (sound : dialog.Sound) : next.Sound := by
  cases drafts with
  | opened closed =>
      rw [sound.closed closed]
      exact .of_plain nofun rfl
  | closed free => exact Dialog.empty_sound
  | keyRequired key value free blank =>
      exact ⟨nofun, rfl, fun _ => ⟨rfl, rfl⟩, nofun⟩
  | invalidContent key value free named problem invalid =>
      exact ⟨nofun, Text.trim_trim key, nofun, fun _ => ⟨rfl, named, problem, invalid⟩⟩
  | rowTaken key value => exact .of_plain nofun (Text.trim_trim key)

/-- After a reply each dialog is as it was, or is that of the add: empty, or open with its drafts. -/
theorem Core.Submitting.mem_settleDialogs {core : Core} (submitting : core.Submitting) {ticket : Nat}
    {waiting : Waiting} (member : (ticket, waiting) ∈ core.inFlight) {reply : Reply}
    {dialog : Dialog} (later : dialog ∈ waiting.settleDialogs core.dialogs reply) :
    dialog ∈ core.dialogs ∨ dialog = .empty ∨
      ∃ draft ∈ core.dialogs, waiting.draft? = some draft ∧
        dialog = { draft with phase := .opened } := by
  cases waiting with
  | save | remove => exact .inl later
  | add place key value locked =>
      have found := submitting.draft ticket _ place member rfl
      cases reply with
      | ok =>
          rcases List.mem_or_eq_of_mem_set later with earlier | rfl
          · exact .inl earlier
          · exact .inr (.inl rfl)
      | failed cause =>
          rcases List.mem_or_eq_of_mem_set later with earlier | rfl
          · exact .inl earlier
          · refine .inr (.inr ⟨_, List.mem_of_getElem? found, rfl, ?_⟩)
            rw [found]
            rfl

theorem Effect.sound (effect : Effect before command after) (submitting : before.Submitting)
    (sound : ∀ dialog ∈ before.dialogs, dialog.Sound) : ∀ dialog ∈ after.dialogs, dialog.Sound := by
  intro dialog member
  cases effect with
  | idle | edit | prompt | cancel | save | confirm => exact sound dialog member
  | draft _ place old next found drafts =>
      rcases List.mem_or_eq_of_mem_set member with earlier | rfl
      · exact sound dialog earlier
      · exact drafts.sound (sound old (List.mem_of_getElem? found))
  | addNew place key value | addLocked place key value =>
      rcases List.mem_or_eq_of_mem_set member with earlier | rfl
      · exact sound dialog earlier
      · exact .of_plain nofun (Text.trim_trim key)
  | deliver ticket reply waiting found =>
      rcases submitting.mem_settleDialogs (mem_of_lookup found) member with
        earlier | rfl | ⟨draft, drafted, carried, rfl⟩
      · exact sound dialog earlier
      · exact Dialog.empty_sound
      · have trimmed := (sound draft drafted).trimmed
        cases waiting with
        | save | remove => cases carried
        | add place key value locked =>
            cases carried
            exact .of_plain nofun trimmed

/-- All that sessions keep about their dialogs. -/
structure Core.Drafting (core : Core) : Prop where
  ticketed : core.Ticketed
  submitting : core.Submitting
  attended : core.Attended
  sound : ∀ dialog ∈ core.dialogs, dialog.Sound

theorem Effect.drafting (effect : Effect before command after) (drafting : before.Drafting) :
    after.Drafting where
  ticketed := effect.ticketed drafting.ticketed
  submitting := effect.submitting drafting.submitting
  attended := effect.attended drafting.ticketed drafting.attended
  sound := effect.sound drafting.submitting drafting.sound

namespace Session

theorem run_drafting (messages : List (String × String)) (dialogs : Nat) (steps : List Step) :
    ((ofMessages messages dialogs).run steps).core.Drafting := by
  apply run_keeps (fun _ _ _ effect => effect.drafting)
  constructor
  · exact .of_idle rfl
  · exact .of_idle rfl
  · exact ofMessages_attended messages dialogs
  · intro dialog member
    rw [List.eq_of_mem_replicate member]
    exact Dialog.empty_sound

variable {session : Session}

theorem submitting_iff (drafting : session.core.Drafting) {dialog : Dialog}
    (found : session.desk.dialogs[index]? = some dialog) :
    dialog.phase = .submitting ↔ ∃ call ∈ session.inFlight, call.2.dialog? = some index := by
  constructor
  · intro submitting
    obtain ⟨ticket, locked, member⟩ := drafting.attended index dialog found submitting
    exact ⟨_, member, rfl⟩
  · rintro ⟨⟨ticket, waiting⟩, member, belongs⟩
    have draft := drafting.submitting.draft ticket waiting index member belongs
    exact Waiting.draft?_phase (draft.symm.trans found)

/-- Drafts that pass the checks are sent unless a row of the key is in use. -/
theorem step_add_call {dialog : Dialog} {key value : String}
    (found : session.desk.dialogs[index]? = some dialog) (free : dialog.phase ≠ .submitting)
    (named : Text.trim key ≠ "") (valid : Markup.validate value = .ok ()) :
    (session.step (.add index key value)).2.call = some (.add (Text.trim key) value) ↔
      ∀ state, session.desk.view.state? (Text.trim key) = some state → state = .viewing := by
  simp only [step, withDialog, found, Desk.requestAdd, if_neg free, if_neg named, valid]
  unfold Desk.submit
  have view : ((Work.start session.desk).setDialog index
      ⟨.opened, Text.trim key, value, false, false⟩).desk.view = session.desk.view := rfl
  rw [view, View.state?]
  cases row : session.desk.view.get? (Text.trim key) with
  | none =>
      refine ⟨fun _ state same => ?_, fun _ => rfl⟩
      cases same
  | some entry =>
      rw [Option.map_some]
      by_cases viewed : entry.state = .viewing
      · simp only [if_pos viewed]
        exact ⟨fun _ state same => (Option.some.inj same).symm.trans viewed, fun _ => rfl⟩
      · simp only [if_neg viewed]
        refine ⟨fun sent => ?_, fun viewing => absurd (viewing entry.state rfl) viewed⟩
        cases sent

/-- The reply to an add: the dialog is emptied, or it is open again with what the add carried. -/
theorem dialog_replied (drafting : session.core.Drafting) {ticket : Nat} {key value : String}
    {locked : Bool} (member : (ticket, .add index key value locked) ∈ session.inFlight)
    (reply : Reply) :
    (session.step (.deliver ticket reply)).1.desk.dialogs[index]? =
      some (match reply with
        | .ok => .empty
        | .failed _ => ⟨.opened, key, value, false, false⟩) := by
  have found := drafting.submitting.draft ticket _ index member rfl
  have bound : index < session.desk.dialogs.length := (List.getElem?_eq_some_iff.mp found).1
  have effect := session.step_effect (.deliver ticket reply)
  have lookup := drafting.ticketed.lookup member
  rcases effect.delivered with ⟨missing, _⟩ | ⟨waiting, awaited, next⟩
  · cases lookup.symm.trans missing
  · cases lookup.symm.trans awaited
    have dialogs : (session.step (.deliver ticket reply)).1.desk.dialogs = _ :=
      congrArg Core.dialogs next
    rw [dialogs]
    cases reply with
    | ok => exact List.getElem?_set_self bound
    | failed cause =>
        refine (List.getElem?_set_self bound).trans ?_
        rw [found]
        rfl

/-- However a session runs, what each dialog shows fits its phase, and a dialog is submitting exactly
while one add of its drafts is in flight, which have passed all checks. The reply empties and closes
the dialog, or leaves it open with its drafts. As long as it stays so, submitting them issues the same
call again exactly if no row of the key is in use. -/
theorem dialogs_fit_phases (messages : List (String × String)) (dialogs : Nat) (steps : List Step) :
    let session := (ofMessages messages dialogs).run steps
    (∀ index dialog, session.desk.dialogs[index]? = some dialog →
      dialog.Sound ∧ ¬ (dialog.keyError = true ∧ dialog.contentError = true) ∧
      (dialog.phase = .submitting ↔ ∃ call ∈ session.inFlight, call.2.dialog? = some index) ∧
      ∀ call ∈ session.inFlight, ∀ other ∈ session.inFlight, call.2.dialog? = some index →
        other.2.dialog? = some index → call = other) ∧
    ∀ ticket index key value locked,
      (ticket, .add index key value locked) ∈ session.inFlight →
      session.desk.dialogs[index]? = some ⟨.submitting, key, value, false, false⟩ ∧
      key ≠ "" ∧ Markup.validate value = .ok () ∧
      (session.step (.deliver ticket .ok)).1.desk.dialogs[index]? = some .empty ∧
      ∀ cause,
        let freed := (session.step (.deliver ticket (.failed cause))).1
        freed.desk.dialogs[index]? = some ⟨.opened, key, value, false, false⟩ ∧
        ∀ more,
          let later := freed.run more
          later.desk.dialogs[index]? = some ⟨.opened, key, value, false, false⟩ →
          ((later.step (.add index key value)).2.call = some (.add key value) ↔
            ∀ state, later.desk.view.state? key = some state → state = .viewing) := by
  intro session
  have drafting : session.core.Drafting := run_drafting messages dialogs steps
  constructor
  · intro index dialog found
    have sound := drafting.sound dialog (List.mem_of_getElem? found)
    refine ⟨sound, sound.hints_apart, submitting_iff drafting found, ?_⟩
    rintro ⟨ticket, waiting⟩ member ⟨ticket', waiting'⟩ member' belongs belongs'
    obtain rfl := drafting.submitting.once _ _ _ _ _ member member' belongs belongs'
    rw [drafting.ticketed.same member member']
  · intro ticket index key value locked member
    have checked := (run_checked messages dialogs steps).sent ticket _ member
    have trimmed : Text.trim key = key := checked.trimmed key value rfl
    have named : Text.trim key ≠ "" := checked.named
    have valid := checked.valid value rfl
    refine ⟨drafting.submitting.draft ticket _ index member rfl, trimmed ▸ named, valid,
      dialog_replied drafting member .ok, fun cause => ⟨dialog_replied drafting member _, ?_⟩⟩
    intro more later unchanged
    have again := step_add_call unchanged nofun named valid
    rwa [trimmed] at again

/-- An add whose request got no answer in time is made again from the dialog, which shows its drafts. -/
theorem add_made_again :
    let session := (ofMessages [] 2).run [.openDialog 1, .add 1 " k " "v"]
    let freed := (session.step (.deliver 1 (.failed (.timeout "add" "no answer")))).1
    (1, .add 1 "k" "v" false) ∈ session.inFlight ∧
      freed.desk.dialogs[1]? = some ⟨.opened, "k", "v", false, false⟩ ∧
      (freed.step (.add 1 "k" "v")).2.call = some (.add "k" "v") := by
  intro session freed
  have sent : (1, Waiting.add 1 "k" "v" false) ∈ session.inFlight := by decide +kernel
  have rowless : freed.desk.view.state? "k" = none := by decide +kernel
  obtain ⟨_, adds⟩ := dialogs_fit_phases [] 2 [.openDialog 1, .add 1 " k " "v"]
  obtain ⟨_, _, _, _, failed⟩ := adds 1 1 "k" "v" false sent
  obtain ⟨shown, again⟩ := failed (.timeout "add" "no answer")
  refine ⟨sent, shown, (again [] shown).mpr fun state row => ?_⟩
  cases rowless.symm.trans row

end Session
end CatalogueEditor
