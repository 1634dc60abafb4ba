import CatalogueEditor.Proofs.InsertionOrder
import CatalogueEditor.Snapshot.Catalogue

/-!
Views that are restored from a snapshot. The entries are taken over as the text lists them, so that a
key may come twice. Look-ups find the first row of a key only, and removing a key removes that row only:
a view forgets the keys that are removed exactly if its keys are distinct.
-/

namespace CatalogueEditor

/-- Snapshots of lists of entries. -/
def Entry.listing : Snapshot (List Entry) where
  encode entries := .list (entries.map encode)
  reader := .list snapshot.reader

namespace View

/-- The key for which an update may add a row. -/
def Update.added? : Update → Option String
  | push entry => some entry.key
  | upsert key _ => some key
  | _ => none

/-- A key that was removed is not found again until it is added again. -/
def Forgets (view : View) : Prop :=
  ∀ earlier key entry later,
    let before := (view.updates earlier).1
    (before.update (.remove key)).2 = .removed (some entry) →
      (∀ update ∈ later, update.added? ≠ some key) →
        ((before.update (.remove key)).1.updates later).1.get? key = none

/-- What look-ups and removals rest on. -/
structure Sound (view : View) : Prop where
  distinct : view.entries.Pairwise (·.key ≠ ·.key)
  forgets : view.Forgets

variable {view : View} {key : String}

theorem mem_keys_push {entry : Entry} {next : View} (pushed : view.push entry = .ok next)
    (member : key ∈ next.keys) : key ∈ view.keys ∨ entry.key = key := by
  obtain ⟨_, rfl⟩ := push_ok pushed
  simpa [keys, eq_comm] using member

theorem mem_keys_upsert {added value : String} {next : View × Bool}
    (upserted : view.upsert added value = .ok next) (member : key ∈ next.1.keys) :
    key ∈ view.keys ∨ added = key := by
  unfold upsert at upserted
  split at upserted
  · cases upserted
    simpa [keys, eq_comm] using member
  · split at upserted
    · cases upserted
      exact .inl (by simpa only [keys_modify, implies_true] using member)
    · cases upserted

theorem mem_keys_update {update : Update} (member : key ∈ (view.update update).1.keys) :
    key ∈ view.keys ∨ update.added? = some key := by
  cases update with
  | push entry =>
      simp only [View.update] at member
      split at member
      · rename_i pushed
        exact (mem_keys_push pushed member).imp_right (congrArg some)
      · exact .inl member
  | upsert added value =>
      simp only [View.update] at member
      split at member
      · rename_i upserted
        exact (mem_keys_upsert upserted member).imp_right (congrArg some)
      · exact .inl member
  | remove removed =>
      simp only [View.update, keys_erase] at member
      exact .inl (List.mem_of_mem_erase member)
  | restate changed change =>
      exact .inl (by simpa only [View.update, restate, keys_modify, implies_true] using member)
  | restateAll change =>
      simp only [View.update, restateAll, keys, List.map_map] at member
      exact .inl member

theorem not_mem_keys_updates {updates : List Update} (absent : key ∉ view.keys)
    (unadded : ∀ update ∈ updates, update.added? ≠ some key) :
    key ∉ (view.updates updates).1.keys := by
  induction updates generalizing view with
  | nil => exact absent
  | cons first rest ih =>
      obtain ⟨here, later⟩ := List.forall_mem_cons.mp unadded
      exact ih (fun member => (mem_keys_update member).elim absent here) later

theorem distinct_updates (distinct : view.keys.Nodup) (updates : List Update) :
    (view.updates updates).1.keys.Nodup := by
  obtain ⟨map, rfl⟩ := OrderedMap.exists_view_eq distinct
  rw [map.updates_view]
  exact OrderedMap.distinct_view _

theorem forgets_of_distinct (distinct : view.keys.Nodup) : view.Forgets := by
  intro earlier key entry later before removed unadded
  have now : before.keys.Nodup := distinct_updates distinct earlier
  have gone : key ∉ (before.erase key).keys := by
    rw [keys_erase]
    exact now.not_mem_erase
  exact get?_eq_none_iff.mpr (not_mem_keys_updates gone unadded)

theorem distinct_of_forgets (forgets : view.Forgets) : view.keys.Nodup := by
  refine List.nodup_iff_count_le_one.mpr fun key => ?_
  cases found : view.get? key with
  | none =>
      rw [List.count_eq_zero_of_not_mem (get?_eq_none_iff.mp found)]
      exact Nat.zero_le 1
  | some entry =>
      -- The first row goes, and then there must be no other.
      have gone : (view.erase key).get? key = none :=
        forgets [] key entry [] (congrArg UpdateAnswer.removed found) (List.forall_mem_nil _)
      have count := List.count_eq_zero_of_not_mem (get?_eq_none_iff.mp gone)
      rw [keys_erase, List.count_erase_self] at count
      omega

theorem sound_iff : view.Sound ↔ view.keys.Nodup := by
  have distinct : view.entries.Pairwise (·.key ≠ ·.key) ↔ view.keys.Nodup := List.pairwise_map.symm
  exact ⟨fun sound => distinct.mp sound.distinct,
    fun nodup => ⟨distinct.mpr nodup, forgets_of_distinct nodup⟩⟩

end View

/-- No entry is left out, and none is refused for its key. -/
theorem View.restored_eq (text : String) :
    View.snapshot.read text = (Entry.listing.read text).map View.mk := by
  simp only [Snapshot.read, Json.Reader.readAll, View.snapshot, Entry.listing, bind, Json.Reader.bind]
  cases (Json.Reader.list Entry.snapshot.reader).run (.start text) with
  | error failure => rfl
  | ok found =>
      obtain ⟨entries, cursor⟩ := found
      simp only [pure, Json.Reader.pure]
      split <;> rfl

theorem View.listed_of_restored {text : String} {view : View}
    (restored : View.snapshot.read text = .ok view) : Entry.listing.read text = .ok view.entries := by
  rw [View.restored_eq] at restored
  cases listed : Entry.listing.read text with
  | error failure =>
      rw [listed] at restored
      cases restored
  | ok entries =>
      rw [listed] at restored
      cases restored
      rfl

/-- A view is restored as the text lists its entries, whatever their keys. It is sound exactly if the text
lists no key twice. -/
theorem restored_sound_iff {text : String} {view : View}
    (restored : View.snapshot.read text = .ok view) :
    Entry.listing.read text = .ok view.entries ∧
      (view.Sound ↔ (view.entries.map Entry.key).Nodup) :=
  ⟨View.listed_of_restored restored, View.sound_iff⟩

theorem distinct_keys_restored_soundly :
    let text := "[\x7b\"key\":\"a\",\"value\":\"1\"\x7d, [\"b\", \"2\", \"editing\"]]"
    ∃ view, View.snapshot.read text = .ok view ∧ (view.entries.map Entry.key).Nodup ∧ view.Sound := by
  intro text
  have restores : (View.snapshot.read text).toOption =
      some ⟨[⟨"a", "1", .viewing⟩, ⟨"b", "2", .editing⟩]⟩ := by
    decide +kernel
  cases restored : View.snapshot.read text with
  | error failure => simp [restored, Except.toOption] at restores
  | ok view =>
      simp only [restored, Except.toOption, Option.some.injEq] at restores
      have distinct : (view.entries.map Entry.key).Nodup := by
        rw [restores]
        decide
      exact ⟨view, rfl, distinct, (restored_sound_iff restored).2.mpr distinct⟩

/-- A text with a key twice: when the key is removed, its second row is found. -/
theorem repeated_key_survives_removal :
    let text := "[\x7b\"key\":\"a\",\"value\":\"1\"\x7d,\x7b\"key\":\"a\",\"value\":\"2\"\x7d]"
    ∃ view, (View.snapshot.read text).toOption = some view ∧ ¬ view.keys.Nodup ∧
      (view.update (.remove "a")).2 = .removed (some ⟨"a", "1", .viewing⟩) ∧
      (view.update (.remove "a")).1.get? "a" = some ⟨"a", "2", .viewing⟩ := by
  intro text
  have restored : (View.snapshot.read text).toOption =
      some ⟨[⟨"a", "1", .viewing⟩, ⟨"a", "2", .viewing⟩]⟩ := by
    decide +kernel
  exact ⟨_, restored, by decide, by decide, by decide⟩

end CatalogueEditor
