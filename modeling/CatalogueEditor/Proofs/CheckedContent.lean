import Mathlib.Data.List.DropRight
import CatalogueEditor.Proofs.EndpointAgreement
import CatalogueEditor.Proofs.SentCalls

/-!
Only checked content is sent and stored. The key of a call is never blank, the key of an add is
trimmed, and what a call asks to store is valid. Seeded keys are not trimmed and seeded values are not
checked; a value that a row gets later is the value of a call.
-/

namespace CatalogueEditor

namespace Text

theorem dropTrailing_prefix (p : Char → Bool) (cs : List Char) : dropTrailing p cs <+: cs :=
  List.rdropWhile_prefix p cs

theorem dropTrailing_dropTrailing (p : Char → Bool) (cs : List Char) :
    dropTrailing p (dropTrailing p cs) = dropTrailing p cs :=
  List.rdropWhile_idempotent p cs

theorem trimChars_trimChars (cs : List Char) : trimChars (trimChars cs) = trimChars cs := by
  -- What is left starts like the text without its leading blanks.
  have unblank : (trimChars cs).dropWhile isBlank = trimChars cs := by
    have front := dropTrailing_prefix isBlank (cs.dropWhile isBlank)
    rw [List.dropWhile_eq_self_iff]
    intro present blank
    have first := List.dropWhile_get_zero_not isBlank cs (present.trans_le front.length_le)
    exact first ((congrArg isBlank (front.getElem present)).symm.trans blank)
  rw [trimChars, unblank]
  exact dropTrailing_dropTrailing isBlank _

theorem trim_trim (s : String) : trim (trim s) = trim s := by
  simp only [trim, String.toList_ofList, trimChars_trimChars]

end Text

/-- A call as it may be sent. -/
structure Call.Proper (call : Call) : Prop where
  named : Text.trim call.key ≠ ""
  trimmed : ∀ key value, call = .add key value → Text.trim key = key
  valid : ∀ value, call.content = some value → Markup.validate value = .ok ()

/-- The calls in flight are proper, no key is blank, and each value was seeded or is valid. -/
structure Core.Checked (seeded : View) (core : Core) : Prop where
  distinct : core.Distinct
  sent : ∀ ticket waiting, (ticket, waiting) ∈ core.inFlight → waiting.call.Proper
  stored : ∀ key value, core.view.value? key = some value →
    Text.trim key ≠ "" ∧ (seeded.value? key = some value ∨ Markup.validate value = .ok ())

variable {seeded : View} {core before after : Core} {command : Step} {waiting : Waiting}

theorem Core.Checked.named (checked : core.Checked seeded) {key : String} {state : RowState}
    (row : core.view.state? key = some state) : Text.trim key ≠ "" := by
  have present : core.view.value? key ≠ none := by
    rw [Ne, View.value?_eq_none_iff, ← View.state?_eq_none_iff, row]
    exact nofun
  obtain ⟨value, found⟩ := Option.ne_none_iff_exists'.mp present
  exact (checked.stored key value found).1

theorem Sends.proper (sends : Sends before command waiting) (checked : before.Checked seeded) :
    waiting.call.Proper := by
  cases sends with
  | save key candidate row valid =>
      refine ⟨checked.named row, nofun, ?_⟩
      rintro _ ⟨⟩
      exact valid
  | remove key row => exact ⟨checked.named row, nofun, nofun⟩
  | add index key value locked dialog found free named valid row =>
      refine ⟨?_, ?_, ?_⟩
      · change Text.trim (Text.trim key) ≠ ""
        rwa [Text.trim_trim]
      · rintro _ _ ⟨⟩
        exact Text.trim_trim key
      · rintro _ ⟨⟩
        exact valid

/-- A value after a reply was there before, or the call that was acknowledged carries it. -/
theorem Waiting.value?_settle {view : View} {reply : Reply} {key value : String}
    (distinct : view.keys.Nodup) (later : (waiting.settle view reply).value? key = some value) :
    view.value? key = some value ∨ (key = waiting.key ∧ waiting.call.content = some value) := by
  by_cases here : key = waiting.key
  · subst here
    cases reply with
    | failed cause => exact .inl (value?_settle_failed ▸ later)
    | ok =>
        refine .inr ⟨rfl, ?_⟩
        cases waiting with
        | save saved candidate =>
            obtain ⟨_, _, same⟩ : ∃ old, view.value? saved = some old ∧ candidate = value := by
              simpa [settle, Waiting.key, call, Call.key] using later
            exact congrArg some same
        | add index added carried locked =>
            exact ((View.value?_put carried).trans (if_pos rfl)).symm.trans later
        | remove removed =>
            cases ((View.value?_erase distinct).trans (if_pos rfl)).symm.trans later
  · exact .inl (value?_settle_other distinct here ▸ later)

theorem Effect.checked (effect : Effect before command after) (checked : before.Checked seeded) :
    after.Checked seeded where
  distinct := effect.distinct checked.distinct
  sent := by
    intro ticket waiting member
    rcases effect.origin member with earlier | ⟨_, calls⟩
    · exact checked.sent ticket waiting earlier
    · exact (effect.sends calls).proper checked
  stored := by
    intro key value row
    by_cases own : ∀ ticket reply, command ≠ .deliver ticket reply
    · exact checked.stored key value (effect.value? own key ▸ row)
    · obtain ⟨ticket, reply, rfl⟩ : ∃ ticket reply, command = .deliver ticket reply := by
        simpa using own
      rcases effect.delivered with ⟨_, rfl⟩ | ⟨waiting, found, rfl⟩
      · exact checked.stored key value row
      · rcases Waiting.value?_settle checked.distinct row with old | ⟨rfl, content⟩
        · exact checked.stored key value old
        · have proper := checked.sent ticket waiting (mem_of_lookup found)
          exact ⟨proper.named, .inr (proper.valid value content)⟩

/-! Seeding skips blank keys. -/

namespace View

variable {view : View}

theorem seedOne_named (message : String × String) (named : ∀ key ∈ view.keys, Text.trim key ≠ "") :
    ∀ key ∈ (view.seedOne message).1.keys, Text.trim key ≠ "" := by
  unfold seedOne
  split
  · exact named
  · rename_i present
    split
    · rename_i next pushed
      obtain ⟨_, rfl⟩ := push_ok pushed
      intro key member
      rw [keys, List.map_append, List.mem_append] at member
      rcases member with old | added
      · exact named key old
      · rw [List.mem_singleton.mp added]
        exact present
    · exact named

theorem seedFrom_named (messages : List (String × String))
    (named : ∀ key ∈ view.keys, Text.trim key ≠ "") :
    ∀ key ∈ (view.seedFrom messages).1.keys, Text.trim key ≠ "" := by
  induction messages generalizing view with
  | nil => exact named
  | cons message rest ih =>
      have next := seedOne_named message named
      rw [seedFrom]
      exact ih next

theorem ofMessages_named (messages : List (String × String)) :
    ∀ key ∈ (ofMessages messages).keys, Text.trim key ≠ "" :=
  seedFrom_named messages nofun

theorem value?_of_mem (distinct : view.keys.Nodup) {entry : Entry} (member : entry ∈ view.entries) :
    view.value? entry.key = some entry.value := by
  rw [value?, get?_of_mem distinct member, Option.map_some]

end View

namespace Session

theorem ofMessages_checked (messages : List (String × String)) (dialogs : Nat) :
    (ofMessages messages dialogs).core.Checked (.ofMessages messages) where
  distinct := ofMessages_distinct messages dialogs
  sent := nofun
  stored := by
    intro key value row
    have present : key ∈ (View.ofMessages messages).keys := by
      by_contra absent
      exact absurd ((View.value?_eq_none_iff.mpr absent).symm.trans row) nofun
    exact ⟨View.ofMessages_named messages key present, .inl row⟩

theorem run_checked (messages : List (String × String)) (dialogs : Nat) (steps : List Step) :
    ((ofMessages messages dialogs).run steps).core.Checked (.ofMessages messages) :=
  run_keeps (fun _ _ _ effect => effect.checked) _ steps (ofMessages_checked messages dialogs)

/-- However a session runs, with any number of dialogs: a call that goes out is proper, and its key
has a row unless it is an add; each value of the view is the one seeded for its key, or valid. -/
theorem only_checked_content (messages : List (String × String)) (dialogs : Nat)
    (steps : List Step) :
    let session := (ofMessages messages dialogs).run steps
    (∀ command call, (session.step command).2.call = some call →
      call.Proper ∧
      ((∀ key value, call ≠ .add key value) → call.key ∈ session.desk.view.keys)) ∧
    ∀ entry ∈ session.desk.view.entries,
      (View.ofMessages messages).value? entry.key = some entry.value ∨
        Markup.validate entry.value = .ok () := by
  intro session
  have checked : session.core.Checked (.ofMessages messages) := run_checked messages dialogs steps
  constructor
  · intro command call called
    obtain ⟨waiting, rfl, sends, _⟩ := step_sends called
    refine ⟨sends.proper checked, fun old => ?_⟩
    by_contra absent
    have missing := View.state?_eq_none_iff.mpr absent
    cases sends with
    | save key candidate row => exact absurd (missing.symm.trans row) nofun
    | remove key row => exact absurd (missing.symm.trans row) nofun
    | add index key value => exact old _ _ rfl
  · intro entry member
    exact (checked.stored _ _ (View.value?_of_mem checked.distinct member)).2

end Session
end CatalogueEditor
