import Mathlib.Data.List.Nodup
import CatalogueEditor.Session.Operations

/-!
What the updates of a view do to the row of each key: its state, its value, and whether there is
one. Updates leave the other rows as they are; only a prompt to delete moves rows of other keys.
-/

namespace CatalogueEditor

namespace View

/-- The state of the row of a key, if there is one. -/
def state? (view : View) (key : String) : Option RowState :=
  (view.get? key).map Entry.state

def value? (view : View) (key : String) : Option String :=
  (view.get? key).map Entry.value

/-- A save: the row of a key, if there is one, is viewed with the value. -/
def store (view : View) (key value : String) : View :=
  view.modify key fun entry => { entry with value, state := .viewing }

/-- An add: the value is stored in the row of the key, or in a new last row. -/
def put (view : View) (key value : String) : View :=
  if key ∈ view.keys then view.store key value
  else ⟨view.entries ++ [⟨key, value, .viewing⟩]⟩

variable {view : View} {key other : String}

theorem contains_iff : view.contains key = true ↔ key ∈ view.keys := by
  simp [contains, keys]

theorem get?_eq_none_iff : view.get? key = none ↔ key ∉ view.keys := by
  simp [get?, keys]

theorem exists_get?_iff : (∃ entry, view.get? key = some entry) ↔ key ∈ view.keys := by
  rw [← Option.ne_none_iff_exists', Ne, get?_eq_none_iff, not_not]

theorem state?_eq_none_iff : view.state? key = none ↔ key ∉ view.keys := by
  rw [state?, Option.map_eq_none_iff, get?_eq_none_iff]

theorem value?_eq_none_iff : view.value? key = none ↔ key ∉ view.keys := by
  rw [value?, Option.map_eq_none_iff, get?_eq_none_iff]

theorem later_key_ne {entry other : Entry} {rest : List Entry}
    (fresh : entry.key ∉ rest.map Entry.key) (later : other ∈ rest) : other.key ≠ entry.key := by
  intro same
  exact fresh (same ▸ List.mem_map_of_mem later)

theorem get?_of_mem (distinct : view.keys.Nodup) {entry : Entry} (member : entry ∈ view.entries) :
    view.get? entry.key = some entry := by
  obtain ⟨entries⟩ := view
  simp only [get?, keys] at *
  induction entries with
  | nil => cases member
  | cons first rest ih =>
      rw [List.map_cons, List.nodup_cons] at distinct
      rcases List.mem_cons.mp member with same | later
      · simp [same]
      · have different : first.key ≠ entry.key := (later_key_ne distinct.1 later).symm
        simpa [different] using ih distinct.2 later

theorem state?_of_mem (distinct : view.keys.Nodup) {entry : Entry}
    (member : entry ∈ view.entries) : view.state? entry.key = some entry.state := by
  rw [state?, get?_of_mem distinct member, Option.map_some]

theorem entries_eq (distinct : view.keys.Nodup) : view.entries = view.keys.filterMap view.get? := by
  have found : view.entries.filterMap (view.get? ∘ Entry.key) = view.entries.filterMap some :=
    List.filterMap_congr fun entry member => get?_of_mem distinct member
  rw [keys, List.filterMap_map, found, List.filterMap_some]

/-- A view with distinct keys is known by the order of its keys and by the row of each. -/
theorem ext_rows {first second : View} (distinct : first.keys.Nodup)
    (order : first.keys = second.keys) (rows : ∀ key, first.get? key = second.get? key) :
    first = second := by
  have same : first.entries = second.entries := by
    rw [entries_eq distinct, entries_eq (order ▸ distinct), order, funext rows]
  cases first
  cases second
  exact congrArg View.mk same

theorem entries_modify (distinct : view.keys.Nodup) (change : Entry → Entry) :
    (view.modify key change).entries =
      view.entries.map fun entry => if entry.key = key then change entry else entry := by
  obtain ⟨entries⟩ := view
  simp only [modify, keys] at *
  induction entries with
  | nil => rfl
  | cons entry rest ih =>
      rw [List.map_cons, List.nodup_cons] at distinct
      rw [modifyFirst, List.map_cons]
      by_cases hit : entry.key = key
      · -- The rest has no other row of the key.
        have others : rest.map (fun other => if other.key = key then change other else other) =
            rest.map id := by
          apply List.map_congr_left
          intro other later
          exact if_neg (hit ▸ later_key_ne distinct.1 later)
        simp [hit, others]
      · simp [hit, ih distinct.2]

/-! Updates of the row of one key. -/
section Modify
variable {change : Entry → Entry} (keeps : ∀ entry, (change entry).key = entry.key)
include keeps

theorem keys_modify : (view.modify key change).keys = view.keys := by
  obtain ⟨entries⟩ := view
  simp only [keys, modify]
  induction entries with
  | nil => rfl
  | cons entry rest ih =>
      rw [modifyFirst]
      split
      · simp [keeps]
      · simp [ih]

theorem get?_modify : (view.modify key change).get? other =
    if other = key then (view.get? key).map change else view.get? other := by
  obtain ⟨entries⟩ := view
  simp only [get?, modify]
  induction entries with
  | nil => simp [modifyFirst]
  | cons entry rest ih =>
      rw [modifyFirst]
      by_cases hit : entry.key = key
      · by_cases same : other = key
        · simp [hit, same, keeps]
        · have different : key ≠ other := Ne.symm same
          simp [hit, same, keeps, different]
      · by_cases same : other = key
        · simpa [hit, same] using ih
        · by_cases found : entry.key = other
          · simp [same, found]
          · simpa [hit, same, found] using ih

theorem modify_modify (later : Entry → Entry) :
    (view.modify key change).modify key later = view.modify key (later ∘ change) := by
  obtain ⟨entries⟩ := view
  simp only [modify, View.mk.injEq]
  induction entries with
  | nil => rfl
  | cons entry rest ih => by_cases hit : entry.key = key <;> simp [modifyFirst, hit, keeps, ih]

omit keeps in
theorem modify_absent (absent : key ∉ view.keys) : view.modify key change = view := by
  obtain ⟨entries⟩ := view
  simp only [keys, modify, View.mk.injEq] at *
  induction entries with
  | nil => rfl
  | cons entry rest ih =>
      simp only [List.map_cons, List.mem_cons, not_or] at absent
      simp [modifyFirst, Ne.symm absent.1, ih absent.2]

end Modify

@[simp] theorem keys_setState (state : RowState) : (view.setState key state).keys = view.keys :=
  keys_modify fun _ => rfl

@[simp] theorem state?_setState (state : RowState) : (view.setState key state).state? other =
    if other = key then (view.state? key).map fun _ => state else view.state? other := by
  simp only [state?, setState, get?_modify, implies_true]
  split <;> simp [Function.comp_def]

@[simp] theorem value?_setState (state : RowState) :
    (view.setState key state).value? other = view.value? other := by
  simp only [value?, setState, get?_modify, implies_true]
  split
  · rename_i same
    simp [same, Function.comp_def]
  · rfl

@[simp] theorem keys_store (value : String) : (view.store key value).keys = view.keys :=
  keys_modify fun _ => rfl

@[simp] theorem state?_store (value : String) : (view.store key value).state? other =
    if other = key then (view.state? key).map fun _ => .viewing else view.state? other := by
  simp only [state?, store, get?_modify, implies_true]
  split <;> simp [Function.comp_def]

@[simp] theorem value?_store (value : String) : (view.store key value).value? other =
    if other = key then (view.value? key).map fun _ => value else view.value? other := by
  simp only [value?, store, get?_modify, implies_true]
  split <;> simp [Function.comp_def]

/-! A prompt to delete moves rows of other keys, but no values. -/

@[simp] theorem keys_displace : (Work.displace key view).keys = view.keys := by
  simp only [keys, Work.displace, List.map_map]
  apply List.map_congr_left
  intro entry _
  simp only [Function.comp_apply]
  split <;> rfl

/-- Each row is found where it was, moved if it waited for confirmation under another key. -/
theorem get?_displace : (Work.displace key view).get? other =
    (view.get? other).map fun entry =>
      if other ≠ key ∧ entry.state = .confirmingDelete then { entry with state := .viewing }
      else entry := by
  obtain ⟨entries⟩ := view
  simp only [get?, Work.displace]
  induction entries with
  | nil => rfl
  | cons entry rest ih =>
      by_cases found : entry.key = other
      · by_cases moved : other ≠ key ∧ entry.state = .confirmingDelete <;> simp [found, moved]
      · by_cases moved : entry.key ≠ key ∧ entry.state = .confirmingDelete <;>
          simpa [found, moved] using ih

@[simp] theorem state?_displace : (Work.displace key view).state? other =
    (view.state? other).map fun state =>
      if other ≠ key ∧ state = .confirmingDelete then .viewing else state := by
  simp only [state?, get?_displace, Option.map_map]
  congr 1
  funext entry
  simp only [Function.comp_apply]
  split <;> rfl

@[simp] theorem value?_displace : (Work.displace key view).value? other = view.value? other := by
  simp only [value?, get?_displace, Option.map_map]
  congr 1
  funext entry
  simp only [Function.comp_apply]
  split <;> rfl

/-! Removed rows. Only the first row of the key goes, so its keys must be distinct. -/

@[simp] theorem keys_erase : (view.erase key).keys = view.keys.erase key := by
  obtain ⟨entries⟩ := view
  simp only [keys, erase]
  induction entries with
  | nil => rfl
  | cons entry rest ih =>
      by_cases hit : entry.key = key <;> simp [hit, ih]

theorem get?_erase (distinct : view.keys.Nodup) : (view.erase key).get? other =
    if other = key then none else view.get? other := by
  split
  · rename_i same
    rw [get?_eq_none_iff, keys_erase, same]
    exact distinct.not_mem_erase
  · rename_i different
    obtain ⟨entries⟩ := view
    simp only [get?, erase]
    clear distinct
    induction entries with
    | nil => rfl
    | cons entry rest ih =>
        by_cases hit : entry.key = key
        · simp [hit, Ne.symm different]
        · by_cases found : entry.key = other
          · simp [found, different]
          · simp [hit, found, ih]

theorem state?_erase (distinct : view.keys.Nodup) : (view.erase key).state? other =
    if other = key then none else view.state? other := by
  simp only [state?, get?_erase distinct]
  split <;> rfl

theorem value?_erase (distinct : view.keys.Nodup) : (view.erase key).value? other =
    if other = key then none else view.value? other := by
  simp only [value?, get?_erase distinct]
  split <;> rfl

/-! Added rows. -/

theorem get?_append (entry : Entry) : (⟨view.entries ++ [entry]⟩ : View).get? other =
    (view.get? other).or (if entry.key = other then some entry else none) := by
  simp [get?, List.find?_append, List.find?_singleton]

@[simp] theorem keys_put (value : String) : (view.put key value).keys =
    if key ∈ view.keys then view.keys else view.keys ++ [key] := by
  rw [put]
  split
  · exact keys_store value
  · simp [keys]

theorem get?_put (value : String) : (view.put key value).get? other =
    if other = key then some ⟨key, value, .viewing⟩ else view.get? other := by
  rw [put]
  split
  · rename_i present
    obtain ⟨entry, found⟩ := exists_get?_iff.mpr present
    have here : entry.key = key := by simpa using List.find?_some found
    simp [store, get?_modify, found, here]
  · rename_i absent
    rw [get?_append]
    by_cases same : other = key
    · simp [same, get?_eq_none_iff.mpr absent]
    · simp [same, Ne.symm same]

@[simp] theorem state?_put (value : String) : (view.put key value).state? other =
    if other = key then some .viewing else view.state? other := by
  simp only [state?, get?_put]
  split <;> rfl

@[simp] theorem value?_put (value : String) : (view.put key value).value? other =
    if other = key then some value else view.value? other := by
  simp only [value?, get?_put]
  split <;> rfl

theorem nodup_put (distinct : view.keys.Nodup) (value : String) :
    (view.put key value).keys.Nodup := by
  rw [keys_put]
  split
  · exact distinct
  · rename_i absent
    exact List.concat_eq_append ▸ distinct.concat absent

/-- A row that was freed takes a new value, so that adding after freeing never fails. -/
theorem upsert_freed (value : String) : (view.setState key .viewing).upsert key value =
    .ok (view.put key value, decide (key ∉ view.keys)) := by
  have found : (view.setState key .viewing).get? key =
      (view.get? key).map fun entry => { entry with state := .viewing } := by
    simp [setState, get?_modify]
  rw [upsert, found]
  by_cases present : key ∈ view.keys
  · obtain ⟨entry, same⟩ := exists_get?_iff.mpr present
    simp [same, put, present, setState, store, modify_modify, Function.comp_def]
  · simp [get?_eq_none_iff.mpr present, put, present, setState, modify_absent present]

/-! Seeded views have distinct keys, and all their rows are viewed. -/

theorem push_ok {entry : Entry} {next : View} (pushed : view.push entry = .ok next) :
    entry.key ∉ view.keys ∧ next = ⟨view.entries ++ [entry]⟩ := by
  unfold push at pushed
  split at pushed
  · cases pushed
  · rename_i absent
    cases pushed
    exact ⟨mt contains_iff.mpr absent, rfl⟩

/-- What seeding keeps: distinct keys and rows that are viewed. -/
def Fresh (view : View) : Prop :=
  view.keys.Nodup ∧ ∀ entry ∈ view.entries, entry.state = .viewing

theorem Fresh.viewing (fresh : view.Fresh) {state : RowState}
    (found : view.state? key = some state) : state = .viewing := by
  obtain ⟨entry, hit, rfl⟩ := Option.map_eq_some_iff.mp found
  exact fresh.2 entry (List.mem_of_find?_eq_some hit)

theorem seedOne_fresh (message : String × String) (fresh : view.Fresh) :
    (view.seedOne message).1.Fresh := by
  unfold seedOne
  split
  · exact fresh
  · split
    · rename_i next pushed
      obtain ⟨absent, rfl⟩ := push_ok pushed
      constructor
      · simpa [keys] using fresh.1.concat absent
      · intro entry member
        rcases List.mem_append.mp member with old | added
        · exact fresh.2 entry old
        · rw [List.mem_singleton.mp added]
    · exact fresh

theorem seedFrom_fresh (messages : List (String × String)) (fresh : view.Fresh) :
    (view.seedFrom messages).1.Fresh := by
  induction messages generalizing view with
  | nil => exact fresh
  | cons message rest ih =>
      have next := seedOne_fresh message fresh
      rw [seedFrom]
      exact ih next

theorem ofMessages_fresh (messages : List (String × String)) : (ofMessages messages).Fresh :=
  seedFrom_fresh messages ⟨List.nodup_nil, fun _ member => by cases member⟩

end View
end CatalogueEditor
