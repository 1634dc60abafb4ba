import Mathlib.Logic.Function.Basic
import CatalogueEditor.Proofs.ViewUpdates

/-!
The view is a map that keeps the order in which its keys came. It is compared with a map proper: an order
of distinct keys, and for each of them, and no other, what it stands for. Whatever updates follow each
other, the view and the map give the same answers and hold the same rows in the same order.
-/

namespace CatalogueEditor

namespace View

/-- Changes the state of the row of a key, as it stands in the list. -/
def restate (view : View) (key : String) (change : Entry → RowState) : View :=
  view.modify key fun entry => { entry with state := change entry }

/-- Changes the states of all rows. What becomes of a row may depend on its key, and so on its place. -/
def restateAll (view : View) (change : Entry → RowState) : View :=
  ⟨view.entries.map fun entry => { entry with state := change entry }⟩

inductive Update
  | push (entry : Entry)
  | upsert (key value : String)
  | remove (key : String)
  | restate (key : String) (change : Entry → RowState)
  | restateAll (change : Entry → RowState)

/-- What an update tells: an error, whether a row is new, the row that was removed, whether there is a
row. -/
inductive UpdateAnswer
  | done
  | refused (e : EditorError)
  | upserted (appended : Bool)
  | removed (entry : Option Entry)
  | found (present : Bool)
deriving DecidableEq

def update (view : View) : Update → View × UpdateAnswer
  | .push entry =>
      match view.push entry with
      | .ok next => (next, .done)
      | .error e => (view, .refused e)
  | .upsert key value =>
      match view.upsert key value with
      | .ok (next, appended) => (next, .upserted appended)
      | .error e => (view, .refused e)
  | .remove key => (view.erase key, .removed (view.get? key))
  | .restate key change => (view.restate key change, .found (view.contains key))
  | .restateAll change => (view.restateAll change, .done)

/-- The view after updates, and their answers. -/
def updates (view : View) : List Update → View × List UpdateAnswer
  | [] => (view, [])
  | first :: rest =>
      let (next, answer) := view.update first
      let (final, answers) := next.updates rest
      (final, answer :: answers)

/-! The changes of states that the editor makes are among these. -/

theorem setState_eq_restate (view : View) (key : String) (state : RowState) :
    view.setState key state = view.restate key fun _ => state := rfl

theorem setAll_eq_restateAll (view : View) (state : RowState) :
    view.setAll state = view.restateAll fun _ => state := rfl

theorem displace_eq_restateAll (view : View) (key : String) :
    Work.displace key view = view.restateAll fun entry =>
      if entry.key ≠ key ∧ entry.state = .confirmingDelete then .viewing else entry.state := by
  refine congrArg View.mk (List.map_congr_left fun entry _ => ?_)
  by_cases moved : entry.key ≠ key ∧ entry.state = .confirmingDelete <;> simp [moved]

/-- The ways to look for a row agree: it is where its key is, and there is none exactly if the key is
none of the keys. -/
structure LookupsAgree (view : View) : Prop where
  size : view.size = view.keys.length
  contains : ∀ key, view.contains key = true ↔ key ∈ view.keys
  missing : ∀ key, view.get? key = none ↔ key ∉ view.keys
  unplaced : ∀ key, view.position? key = none ↔ key ∉ view.keys
  placed : ∀ key index, view.position? key = some index ↔ view.keys[index]? = some key
  found : ∀ key, view.get? key = (view.position? key).bind fun index => view.entries[index]?

theorem position?_eq_findIdx? (view : View) (key : String) :
    view.position? key = view.keys.findIdx? (· == key) := by
  rw [position?, keys, List.findIdx?_map]
  rfl

theorem lookupsAgree {view : View} (distinct : view.keys.Nodup) : view.LookupsAgree where
  size := List.length_map _ |>.symm
  contains _ := contains_iff
  missing _ := get?_eq_none_iff
  unplaced key := by
    rw [position?_eq_findIdx?, List.findIdx?_eq_none_iff]
    exact ⟨fun none member => by simpa using none key member,
      fun absent other member => beq_eq_false_iff_ne.mpr fun same => absent (same ▸ member)⟩
  placed key index := by
    rw [position?_eq_findIdx?, List.findIdx?_eq_some_iff_getElem, List.getElem?_eq_some_iff]
    constructor
    · rintro ⟨inside, here, _⟩
      exact ⟨inside, eq_of_beq here⟩
    · rintro ⟨inside, here⟩
      refine ⟨inside, beq_iff_eq.mpr here, fun earlier before same => ?_⟩
      -- A key that stands at two places would not be distinct.
      have twice := (eq_of_beq same).trans here.symm
      exact absurd (distinct.getElem_inj_iff.mp twice) (Nat.ne_of_lt before)
  found _ := List.find?_eq_bind_findIdx?_getElem?

end View

/-- What a key stands for. -/
structure Content where
  value : String
  state : RowState
deriving DecidableEq

/-- The row of a key with this content. -/
def Content.row (content : Content) (key : String) : Entry :=
  ⟨key, content.value, content.state⟩

def Entry.content (entry : Entry) : Content :=
  ⟨entry.value, entry.state⟩

/-- A map that keeps the order of insertion. -/
structure OrderedMap where
  order : List String
  content? : String → Option Content
  distinct : order.Nodup
  domain : ∀ key, content? key = none ↔ key ∉ order

namespace OrderedMap

/-- The rows in order. -/
def view (map : OrderedMap) : View :=
  ⟨map.order.filterMap fun key => (map.content? key).map (·.row key)⟩

/-- A new key comes last. -/
def append (map : OrderedMap) (key : String) (content : Content) (fresh : map.content? key = none) :
    OrderedMap where
  order := map.order ++ [key]
  content? := Function.update map.content? key (some content)
  distinct := List.concat_eq_append ▸ map.distinct.concat ((map.domain key).mp fresh)
  domain other := by
    by_cases same : other = key
    · simp [same]
    · simp [same, map.domain]

/-- Changes what keys stand for. -/
def alter (map : OrderedMap) (change : Entry → Content) : OrderedMap where
  order := map.order
  content? key := (map.content? key).map fun content => change (content.row key)
  distinct := map.distinct
  domain key := by rw [Option.map_eq_none_iff, map.domain]

def alterAt (map : OrderedMap) (key : String) (change : Entry → Content) : OrderedMap :=
  map.alter fun row => if row.key = key then change row else row.content

def remove (map : OrderedMap) (key : String) : OrderedMap where
  order := map.order.filter (· ≠ key)
  content? := Function.update map.content? key none
  distinct := map.distinct.filter _
  domain other := by
    by_cases same : other = key
    · simp [same]
    · simp [same, map.domain]

open View (Update UpdateAnswer)

def update (map : OrderedMap) : Update → OrderedMap × UpdateAnswer
  | .push entry =>
      match fresh : map.content? entry.key with
      | none => (map.append entry.key entry.content fresh, .done)
      | some _ => (map, .refused (.duplicateKey entry.key))
  | .upsert key value =>
      match fresh : map.content? key with
      | none => (map.append key ⟨value, .viewing⟩ fresh, .upserted true)
      | some content =>
          if content.state = .viewing then
            (map.alterAt key fun row => ⟨value, row.state⟩, .upserted false)
          else (map, .refused (.invalidTransition key content.state.display "add"))
  | .remove key => (map.remove key, .removed ((map.content? key).map (·.row key)))
  | .restate key change =>
      (map.alterAt key fun row => ⟨row.value, change row⟩, .found (map.content? key).isSome)
  | .restateAll change => (map.alter fun row => ⟨row.value, change row⟩, .done)

def updates (map : OrderedMap) : List Update → OrderedMap × List UpdateAnswer
  | [] => (map, [])
  | first :: rest =>
      let (next, answer) := map.update first
      let (final, answers) := next.updates rest
      (final, answer :: answers)

variable (map : OrderedMap)

@[simp] theorem keys_view : map.view.keys = map.order := by
  have named : ∀ key ∈ map.order, ((map.content? key).map (·.row key)).map Entry.key = some key := by
    intro key member
    obtain ⟨content, found⟩ :=
      Option.ne_none_iff_exists'.mp fun missing => (map.domain key).mp missing member
    rw [found]
    rfl
  rw [View.keys, view, List.map_filterMap, List.filterMap_congr named, List.filterMap_some]

@[simp] theorem get?_view (key : String) :
    map.view.get? key = (map.content? key).map (·.row key) := by
  cases found : map.content? key with
  | none =>
      rw [Option.map_none, View.get?_eq_none_iff, keys_view]
      exact (map.domain key).mp found
  | some content =>
      have present : key ∈ map.order := by
        by_contra absent
        cases found.symm.trans ((map.domain key).mpr absent)
      have member : content.row key ∈ map.view.entries :=
        List.mem_filterMap.mpr ⟨key, present, by rw [found, Option.map_some]⟩
      have distinct : map.view.keys.Nodup := map.keys_view ▸ map.distinct
      exact View.get?_of_mem distinct member

theorem distinct_view : map.view.keys.Nodup := map.keys_view ▸ map.distinct

/-- The map of a view, which is the only one. -/
theorem exists_view_eq {view : View} (distinct : view.keys.Nodup) : ∃ map : OrderedMap, map.view = view := by
  let map : OrderedMap := {
    order := view.keys
    content? := fun key => (view.get? key).map Entry.content
    distinct
    domain := fun key => by rw [Option.map_eq_none_iff, View.get?_eq_none_iff] }
  refine ⟨map, View.ext_rows map.distinct_view map.keys_view fun key => ?_⟩
  rw [get?_view]
  cases found : view.get? key with
  | none => simp [map, found]
  | some entry =>
      have here : entry.key = key := by simpa using List.find?_some found
      subst here
      simp [map, found, Entry.content, Content.row]

/-! One update. -/

theorem contains_view (key : String) : map.view.contains key = (map.content? key).isSome := by
  rw [Bool.eq_iff_iff, View.contains_iff, keys_view, Option.isSome_iff_ne_none, Ne, map.domain, not_not]

theorem view_append (key : String) (content : Content) (fresh : map.content? key = none) :
    (map.append key content fresh).view = ⟨map.view.entries ++ [content.row key]⟩ := by
  apply View.ext_rows (distinct_view _)
  · have order : map.view.entries.map Entry.key = map.order := map.keys_view
    rw [keys_view, View.keys, List.map_append, order]
    rfl
  · intro other
    rw [View.get?_append, get?_view, get?_view]
    by_cases same : other = key
    · simp [append, same, fresh, Content.row]
    · simp [append, same, Ne.symm same, Content.row]

theorem view_alter (change : Entry → Content) : (map.alter change).view =
    ⟨map.view.entries.map fun entry => (change entry).row entry.key⟩ := by
  simp only [view, alter, View.mk.injEq, List.map_filterMap, Option.map_map]
  rfl

theorem view_alterAt (key : String) (change : Entry → Content) : (map.alterAt key change).view =
    map.view.modify key fun entry => (change entry).row entry.key := by
  rw [alterAt, view_alter]
  refine congrArg View.mk (Eq.trans ?_ (View.entries_modify map.distinct_view _).symm)
  refine List.map_congr_left fun entry _ => ?_
  split <;> rfl

theorem view_remove (key : String) : (map.remove key).view = map.view.erase key := by
  apply View.ext_rows (distinct_view _)
  · simp [remove, map.distinct.erase_eq_filter, bne, beq_eq_decide]
  · intro other
    rw [View.get?_erase map.distinct_view, get?_view, get?_view]
    by_cases same : other = key <;> simp [remove, same]

theorem update_view (update : Update) :
    map.view.update update = ((map.update update).1.view, (map.update update).2) := by
  cases update with
  | push entry =>
      rw [OrderedMap.update]
      split
      · rename_i fresh
        rw [view_append]
        simp [View.update, View.push, contains_view, fresh, Entry.content, Content.row]
      · rename_i content found
        simp [View.update, View.push, contains_view, found]
  | upsert key value =>
      rw [OrderedMap.update]
      split
      · rename_i fresh
        rw [view_append]
        simp [View.update, View.upsert, fresh, Content.row]
      · rename_i content found
        by_cases viewed : content.state = .viewing
        · simp [View.update, View.upsert, found, viewed, view_alterAt, Content.row]
        · simp [View.update, View.upsert, found, viewed, Content.row]
  | remove key => rw [View.update, OrderedMap.update, view_remove, get?_view]
  | restate key change =>
      rw [View.update, OrderedMap.update, View.restate, contains_view, view_alterAt]
      rfl
  | restateAll change =>
      rw [View.update, OrderedMap.update, View.restateAll, view_alter]
      rfl

theorem updates_view (updates : List Update) :
    map.view.updates updates = ((map.updates updates).1.view, (map.updates updates).2) := by
  induction updates generalizing map with
  | nil => rfl
  | cons first rest ih =>
      have later := ih (map.update first).1
      simp only [View.updates, OrderedMap.updates, update_view, later]

end OrderedMap

/-- Updates of a view with distinct keys are those of a map that keeps the order of insertion, with the
same answers; keys stay distinct, and all look-ups agree. -/
theorem view_is_ordered_map {view : View} (distinct : view.keys.Nodup) :
    ∃ map : OrderedMap, map.view = view ∧ ∀ updates,
      (view.updates updates).1 = (map.updates updates).1.view ∧
      (view.updates updates).2 = (map.updates updates).2 ∧
      (view.updates updates).1.keys = (map.updates updates).1.order ∧
      (view.updates updates).1.keys.Nodup ∧ (view.updates updates).1.LookupsAgree := by
  obtain ⟨map, rfl⟩ := OrderedMap.exists_view_eq distinct
  refine ⟨map, rfl, fun updates => ?_⟩
  have after := OrderedMap.distinct_view (map.updates updates).1
  rw [map.updates_view]
  exact ⟨rfl, rfl, OrderedMap.keys_view _, after, View.lookupsAgree after⟩

theorem readded_key_comes_last :
    let view : View := ⟨[⟨"a", "1", .viewing⟩, ⟨"b", "2", .editing⟩]⟩
    let updates : List View.Update :=
      [.upsert "b" "3", .remove "a", .push ⟨"a", "4", .viewing⟩, .push ⟨"b", "5", .viewing⟩]
    view.keys.Nodup ∧ ∃ map : OrderedMap, map.view = view ∧
      (map.updates updates).1.order = ["b", "a"] ∧
      (map.updates updates).2 = [.refused (.invalidTransition "b" "editing" "add"),
        .removed (some ⟨"a", "1", .viewing⟩), .done, .refused (.duplicateKey "b")] := by
  intro view updates
  have distinct : view.keys.Nodup := by decide
  obtain ⟨map, same, shows⟩ := view_is_ordered_map distinct
  obtain ⟨_, answers, order, _⟩ := shows updates
  exact ⟨distinct, map, same, order.symm.trans (by decide), answers.symm.trans (by decide)⟩

end CatalogueEditor
