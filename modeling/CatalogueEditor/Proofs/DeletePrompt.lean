import CatalogueEditor.Proofs.Rendering
import CatalogueEditor.Proofs.Requests

/-!
One deletion at most waits for its confirmation. No field says which: it is the state of one row, and
a prompt to delete another row takes it back. So what is pending is found by a scan, and it is the row
that the next removal is for.
-/

namespace CatalogueEditor

/-- At most one key has a row that waits for confirmation. -/
def View.Single (view : View) : Prop :=
  ∀ key other, view.state? key = some .confirmingDelete →
    view.state? other = some .confirmingDelete → key = other

namespace View

variable {view : View} {key other : String}

/-- The prompt for a key leaves no other row waiting. -/
theorem confirming_of_displace {state : RowState}
    (row : (Work.displace key (view.setState key state)).state? other = some .confirmingDelete) :
    other = key := by
  by_contra apart
  rw [state?_displace] at row
  obtain ⟨old, _, moved⟩ := Option.map_eq_some_iff.mp row
  by_cases waits : old = .confirmingDelete
  · rw [if_pos ⟨apart, waits⟩] at moved
    cases moved
  · rw [if_neg (not_and_of_not_right _ waits)] at moved
    exact waits moved

theorem pendingDelete?_eq_some_iff (distinct : view.keys.Nodup) (single : view.Single) :
    view.pendingDelete? = some key ↔ view.state? key = some .confirmingDelete := by
  have sound : ∀ entry, view.entries.find? (·.state == .confirmingDelete) = some entry →
      view.state? entry.key = some .confirmingDelete := by
    intro entry found
    have waits : entry.state = .confirmingDelete := by simpa using List.find?_some found
    exact waits ▸ state?_of_mem distinct (List.mem_of_find?_eq_some found)
  constructor
  · intro pending
    obtain ⟨entry, found, rfl⟩ := Option.map_eq_some_iff.mp pending
    exact sound entry found
  · intro row
    obtain ⟨entry, hit, waits⟩ := Option.map_eq_some_iff.mp row
    have some : (view.entries.find? (·.state == .confirmingDelete)).isSome := by
      rw [List.find?_isSome]
      exact ⟨entry, List.mem_of_find?_eq_some hit, by simp [waits]⟩
    obtain ⟨first, found⟩ := Option.isSome_iff_exists.mp some
    rw [pendingDelete?, found, Option.map_some, single first.key key (sound first found) row]

theorem pending_length (distinct : view.keys.Nodup) (single : view.Single) :
    (view.entries.filter (·.state = .confirmingDelete)).length ≤ 1 := by
  have keys : ((view.entries.filter (·.state = .confirmingDelete)).map Entry.key).Nodup :=
    distinct.sublist (List.filter_sublist.map _)
  have waits : ∀ entry ∈ view.entries.filter (·.state = .confirmingDelete),
      view.state? entry.key = some .confirmingDelete := by
    intro entry member
    obtain ⟨member, waits⟩ := List.mem_filter.mp member
    exact of_decide_eq_true waits ▸ state?_of_mem distinct member
  cases pending : view.entries.filter (·.state = .confirmingDelete) with
  | nil => exact Nat.zero_le _
  | cons first rest =>
      cases rest with
      | nil => exact Nat.le_refl _
      | cons second rest =>
          rw [pending] at keys waits
          have same := single first.key second.key (waits first (by simp)) (waits second (by simp))
          simp [same] at keys

/-- A prompt moves the row of its key and the row that waited before, and no other. -/
theorem entries_prompt (distinct : view.keys.Nodup) :
    (Work.displace key (view.setState key .confirmingDelete)).entries =
      view.entries.map fun entry =>
        if entry.key = key then { entry with state := .confirmingDelete }
        else if entry.state = .confirmingDelete then { entry with state := .viewing } else entry := by
  simp only [Work.displace, setState, entries_modify distinct, List.map_map]
  apply List.map_congr_left
  intro entry _
  by_cases hit : entry.key = key <;> simp [hit]

end View

variable {before after : Core} {command : Step} {key : String}

/-- What an accepted prompt does to the view. -/
theorem Effect.prompted (effect : Effect before (.row key .delete) after)
    (accepts : before.Accepts key .delete) :
    after.view = Work.displace key (before.view.setState key .confirmingDelete) := by
  cases effect with
  | idle _ why =>
      rcases why with refused | ⟨candidate, problem, same, _⟩
      · exact absurd accepts refused
      · cases same
  | prompt => rfl
  | draft _ index dialog next found drafted => cases drafted

theorem Effect.single (effect : Effect before command after) (distinct : before.Distinct)
    (single : before.view.Single) : after.view.Single := by
  by_cases prompt : ∃ key, command = .row key .delete ∧ before.Accepts key .delete
  · obtain ⟨prompted, rfl, accepts⟩ := prompt
    intro key other row row'
    rw [effect.prompted accepts] at row row'
    exact (View.confirming_of_displace row).trans (View.confirming_of_displace row').symm
  · -- Without a prompt no row comes to wait.
    have old : ∀ key, after.view.state? key = some .confirmingDelete →
        before.view.state? key = some .confirmingDelete := by
      intro key row
      rcases effect.entered distinct .prompt row with old | ⟨rfl, accepts⟩
      · exact old
      · exact absurd ⟨key, rfl, accepts⟩ prompt
    exact fun key other row row' => single key other (old key row) (old other row')

namespace Session

variable {session : Session}

/-- A prompt that says that the row waits was accepted, and ran. -/
theorem step_prompted
    (answer : (session.step (.row key .delete)).2.answer =
      .outcome (.transitioned .confirmingDelete)) :
    session.core.Accepts key .delete ∧
      ∃ log, (session.step (.row key .delete)).1.desk =
        (Work.promptDelete ⟨session.desk, [], log⟩ key).work.desk := by
  simp only [step, Desk.dispatch] at *
  cases found : session.desk.view.get? key with
  | none => simp [found, Work.refuses, after] at answer
  | some entry =>
      simp only [found] at answer ⊢
      by_cases accepted : entry.state.accepts .delete = true
      · rw [if_pos accepted] at answer ⊢
        have row : session.desk.view.state? key = some entry.state := congrArg _ found
        exact ⟨⟨entry.state, row, accepted⟩, _, after_desk _⟩
      · rw [if_neg accepted] at answer
        simp [Work.refuses, after] at answer

end Session

namespace Work

variable (work : Work)

/-- What the prompt renders: its own row as waiting, and the one that waited before as viewed. -/
theorem promptDelete_screen : (work.promptDelete key).work.desk.screen =
    (((displacedBy key work.desk.view).map (Event.renderState · .viewing)).foldl Screen.apply
      work.desk.screen).apply (.renderState key .confirmingDelete) := by
  simp only [promptDelete, ends, render_screen, tell_screen, changeView_screen, setState_screen]

theorem promptDelete_row? (distinct : work.desk.view.keys.Nodup) {other : String}
    (apart : other ≠ key) (idle : work.desk.view.state? other ≠ some .confirmingDelete) :
    (work.promptDelete key).work.desk.screen.row? other = work.desk.screen.row? other := by
  rw [promptDelete_screen, Screen.row?_apply, if_neg (by simpa [Event.key?] using apart.symm)]
  apply Screen.row?_follow_other
  intro event member
  obtain ⟨displaced, waits, rfl⟩ := List.mem_map.mp member
  have row := ((mem_displacedBy distinct).mp waits).2
  rintro ⟨⟩
  exact idle row

theorem promptDelete_shown :
    (work.promptDelete key).work.desk.screen.state? key = some .confirmingDelete := by
  rw [promptDelete_screen, Screen.state?_renderState, if_pos rfl]

theorem promptDelete_displaced (distinct : work.desk.view.keys.Nodup) {other : String}
    (apart : other ≠ key) (waits : work.desk.view.state? other = some .confirmingDelete) :
    (work.promptDelete key).work.desk.screen.state? other = some .viewing := by
  have displaced : other ∈ displacedBy key work.desk.view :=
    (mem_displacedBy distinct).mpr ⟨apart, waits⟩
  simp only [promptDelete, ends, render_screen, Screen.state?_renderState, if_neg apart, tell_state?,
    if_pos displaced]

end Work

/-- What a prompt to delete the row of the key makes of a desk: the row waits, the one that waited
before is viewed, and no other row changes, neither in the view nor as it is rendered. -/
structure Desk.Prompts (before after : Desk) (key : String) : Prop where
  pending : after.view.pendingDelete? = some key
  rows : after.view.entries = before.view.entries.map fun entry =>
    if entry.key = key then { entry with state := .confirmingDelete }
    else if entry.state = .confirmingDelete then { entry with state := .viewing } else entry
  shown : after.screen.state? key = some .confirmingDelete
  displaced : ∀ entry ∈ before.view.entries, entry.state = .confirmingDelete →
    after.screen.state? entry.key = some .viewing
  others : ∀ other, other ≠ key → before.view.state? other ≠ some .confirmingDelete →
    after.screen.row? other = before.screen.row? other

/-- Keys are distinct, and at most one row waits for confirmation. -/
structure Core.Pending (core : Core) : Prop where
  distinct : core.Distinct
  single : core.view.Single

theorem Effect.pending (effect : Effect before command after) (pending : before.Pending) :
    after.Pending where
  distinct := effect.distinct pending.distinct
  single := effect.single pending.distinct pending.single

namespace Session

variable {session : Session}

theorem ofMessages_pending (messages : List (String × String)) (dialogs : Nat) :
    (ofMessages messages dialogs).core.Pending where
  distinct := ofMessages_distinct messages dialogs
  single := by
    intro key other row
    cases (View.ofMessages_fresh messages).viewing row

theorem run_pending (messages : List (String × String)) (dialogs : Nat) (steps : List Step) :
    ((ofMessages messages dialogs).run steps).core.Pending :=
  run_keeps (fun _ _ _ effect => effect.pending) _ steps (ofMessages_pending messages dialogs)

theorem step_prompts (pending : session.core.Pending)
    (answer : (session.step (.row key .delete)).2.answer =
      .outcome (.transitioned .confirmingDelete)) :
    session.desk.Prompts (session.step (.row key .delete)).1.desk key := by
  obtain ⟨accepts, log, desk⟩ := step_prompted answer
  have effect := session.step_effect (.row key .delete)
  have view : (session.step (.row key .delete)).1.desk.view =
      Work.displace key (session.desk.view.setState key .confirmingDelete) := effect.prompted accepts
  have later := effect.pending pending
  obtain ⟨state, row, accepted⟩ := accepts
  have waits : (session.step (.row key .delete)).1.desk.view.state? key =
      some .confirmingDelete := by
    have row : session.desk.view.state? key = some state := row
    simp [view, row]
  constructor
  · exact (View.pendingDelete?_eq_some_iff later.distinct later.single).mpr waits
  · rw [view]
    exact View.entries_prompt pending.distinct
  · rw [desk]
    exact Work.promptDelete_shown _
  · intro entry member confirming
    have waited : session.desk.view.state? entry.key = some .confirmingDelete :=
      confirming ▸ View.state?_of_mem pending.distinct member
    -- A row that waits takes no prompt of its own.
    have apart : entry.key ≠ key := by
      rintro rfl
      cases row.symm.trans waited
      cases accepted
    rw [desk]
    exact Work.promptDelete_displaced ⟨session.desk, [], log⟩ pending.distinct apart waited
  · intro other apart idle
    rw [desk]
    exact Work.promptDelete_row? ⟨session.desk, [], log⟩ pending.distinct apart idle

/-- However a session runs, with any number of dialogs: at most one row waits for the confirmation of
its deletion, and it is the pending one; an accepted prompt moves the confirmation to its row; and a
removal is sent for the pending row only. -/
theorem one_pending_delete (messages : List (String × String)) (dialogs : Nat)
    (steps : List Step) :
    let session := (ofMessages messages dialogs).run steps
    (session.desk.view.entries.filter (·.state = .confirmingDelete)).length ≤ 1 ∧
    (∀ key, session.desk.view.pendingDelete? = some key ↔
      ∃ entry ∈ session.desk.view.entries, entry.key = key ∧ entry.state = .confirmingDelete) ∧
    (∀ key, (session.step (.row key .delete)).2.answer = .outcome (.transitioned .confirmingDelete) →
      session.desk.Prompts (session.step (.row key .delete)).1.desk key) ∧
    (∀ command key, (session.step command).2.call = some (.remove key) →
      session.desk.view.pendingDelete? = some key) := by
  intro session
  have pending : session.core.Pending := run_pending messages dialogs steps
  have found : ∀ key, session.desk.view.pendingDelete? = some key ↔
      session.desk.view.state? key = some .confirmingDelete :=
    fun _ => View.pendingDelete?_eq_some_iff pending.distinct pending.single
  refine ⟨View.pending_length pending.distinct pending.single, fun key => ?_,
    fun key => step_prompts pending, fun command key called => ?_⟩
  · rw [found]
    constructor
    · intro row
      obtain ⟨entry, hit, waits⟩ := Option.map_eq_some_iff.mp row
      exact ⟨entry, List.mem_of_find?_eq_some hit, by simpa using List.find?_some hit, waits⟩
    · rintro ⟨entry, member, rfl, waits⟩
      exact waits ▸ View.state?_of_mem pending.distinct member
  · exact (found key).mpr (confirming_before_remove called)

end Session

end CatalogueEditor
