import Mathlib.Data.List.Forall2
import Mathlib.Data.List.Nodup
import CatalogueEditor.Editor.Settings
import CatalogueEditor.Proofs.Json.Values
import CatalogueEditor.Snapshot.Outcome
import CatalogueEditor.Snapshot.Request

/-!
Snapshots are faithful: what is read from the text of a value is the value. Each reader takes the tree that
the value is encoded as, whatever characters stand in its strings.
-/

namespace CatalogueEditor

open Json

namespace Snapshot

variable {α : Type}

/-- The reader takes what a value is encoded as for this value. -/
def Faithful (snapshot : Snapshot α) : Prop :=
  ∀ a, snapshot.reader.Takes (snapshot.encode a) a

theorem read_text {snapshot : Snapshot α} {tree : Tree} {a : α} (takes : snapshot.reader.Takes tree a) :
    snapshot.read tree.text = .ok a := by
  apply Reader.Reads.readAll
  rw [Tree.text, String.toList_ofList, ← List.append_nil tree.render]
  exact takes [] trivial

theorem Faithful.read_write {snapshot : Snapshot α} (faithful : snapshot.Faithful) (a : α) :
    snapshot.read (snapshot.write a) = .ok a :=
  read_text (faithful a)

/-! Names. -/

theorem lookup_named {all : List α} {name : α → String} (distinct : (all.map name).Nodup) {a : α}
    (member : a ∈ all) : (named all name).lookup (name a) = some a := by
  obtain ⟨front, back, rfl⟩ := List.append_of_mem member
  rw [List.map_append, List.map_cons, List.nodup_middle, List.nodup_cons] at distinct
  rw [List.lookup_eq_some_iff]
  refine ⟨named front name, named back name, by simp [named], fun entry earlier => ?_⟩
  obtain ⟨other, member, rfl⟩ := List.mem_map.mp earlier
  have apart : name a ≠ name other := by
    intro same
    exact distinct.1 (List.mem_append_left _ (same ▸ List.mem_map_of_mem member))
  simpa using apart

theorem ofNames_faithful {all : List α} {name : α → String} (distinct : (all.map name).Nodup)
    (complete : ∀ a, a ∈ all) : (ofNames all name).Faithful :=
  fun a => Reader.enumeration_takes (lookup_named distinct (complete a))

end Snapshot

theorem RowState.snapshot_faithful : RowState.snapshot.Faithful :=
  Snapshot.ofNames_faithful (by decide) fun state => by cases state <;> decide

theorem Stripe.snapshot_faithful : Stripe.snapshot.Faithful :=
  Snapshot.ofNames_faithful (by decide) fun stripe => by cases stripe <;> decide

theorem FeedbackKind.snapshot_faithful : FeedbackKind.snapshot.Faithful :=
  Snapshot.ofNames_faithful (by decide) fun kind => by cases kind <;> decide

theorem Banner.snapshot_faithful : Banner.snapshot.Faithful :=
  Snapshot.ofNames_faithful (by decide) fun banner => by cases banner <;> decide

theorem Rejection.snapshot_faithful : Rejection.snapshot.Faithful :=
  Snapshot.ofNames_faithful (by decide) fun reason => by cases reason <;> decide

theorem Operation.snapshot_faithful : Operation.snapshot.Faithful :=
  Snapshot.ofNames_faithful (by decide) fun operation => by cases operation <;> decide

/-! Records. -/

theorem Entry.folds_message (key value : String) {members : List (String × Tree)} {final : Entry.Draft}
    (others : Folds Entry.readMember ⟨some key, some value, none⟩ members final) :
    Folds Entry.readMember ⟨none, none, none⟩
      (("key", .string key) :: ("value", .string value) :: members) final := by
  refine .step ⟨some key, none, none⟩ ?_ (.step ⟨some key, some value, none⟩ ?_ others)
  · exact (Reader.once_takes "key" (Reader.string_takes key)).map _
  · exact (Reader.once_takes "value" (Reader.string_takes value)).map _

theorem Entry.snapshot_faithful : Entry.snapshot.Faithful := by
  intro entry
  apply Reader.record_takes
  apply Reader.inObject_takes ⟨some entry.key, some entry.value, some entry.state⟩
  · refine Entry.folds_message entry.key entry.value (.step _ ?_ (.done _))
    exact (Reader.once_takes "rowState" (RowState.snapshot_faithful entry.state)).map _
  · exact fun text => .pure _ text

/-- An entry that does not tell its state is viewed. -/
theorem Entry.read_stateless (key value : String) :
    Entry.snapshot.read (Tree.object [("key", .string key), ("value", .string value)]).text =
      .ok ⟨key, value, .viewing⟩ := by
  apply Snapshot.read_text
  apply Reader.record_takes
  exact Reader.inObject_takes _ (Entry.folds_message key value (.done _)) fun text => .pure _ text

theorem View.snapshot_faithful : View.snapshot.Faithful := by
  intro view
  have taken : List.Forall₂ Entry.snapshot.reader.Takes (view.entries.map Entry.encode) view.entries := by
    rw [List.forall₂_map_left_iff, List.forall₂_same]
    exact fun entry _ => Entry.snapshot_faithful entry
  refine (Reader.list_takes taken fun tree member => ?_).map View.mk
  obtain ⟨entry, _, rfl⟩ := List.mem_map.mp member
  exact ⟨'{', _, rfl, rfl, by decide⟩

theorem Outcome.readKind_takes (kind : Outcome.Kind) :
    Outcome.readKind.Takes (.string kind.name) kind :=
  Reader.enumeration_takes (Snapshot.lookup_named (by decide) (by cases kind <;> decide))

/-- An outcome is its kind and a value that the reader for this kind takes. -/
theorem Outcome.reader_takes {outcome : Outcome} (kind : Outcome.Kind) (value : Tree)
    (takes : (Outcome.readValue kind).Takes value outcome) :
    Outcome.snapshot.reader.Takes (.object [("outcome", .string kind.name), ("value", value)]) outcome := by
  apply Reader.record_takes
  apply Reader.inObject_takes (.both outcome)
  · refine .step (.kind kind) ?_ (.step _ ?_ (.done _))
    · exact ((Outcome.readKind_takes kind).map Outcome.Draft.kind).behindColon
    · exact (takes.map Outcome.Draft.both).behindColon
  · exact fun text => .pure _ text

theorem Outcome.snapshot_faithful : Outcome.snapshot.Faithful := by
  intro outcome
  cases outcome with
  | transitioned state =>
      apply Outcome.reader_takes .transitioned
      exact (RowState.snapshot_faithful state).map Outcome.transitioned
  | rejected reason =>
      apply Outcome.reader_takes .rejected
      exact (Rejection.snapshot_faithful reason).map Outcome.rejected
  | completed kind =>
      apply Outcome.reader_takes .completed
      exact (FeedbackKind.snapshot_faithful kind).map Outcome.completed

namespace Settings

theorem time_takes (time : UInt64) : Settings.time.Takes (.nat time.toNat) time := by
  have takes := (Reader.naturalBelow_takes UInt64.size "u64" time.toNat_lt (Nat.le_refl _)).map UInt64.ofNat
  rwa [UInt64.ofNat_toNat] at takes

theorem count_takes (count : UInt32) : Settings.count.Takes (.nat count.toNat) count := by
  have takes := (Reader.naturalBelow_takes UInt32.size "u32" count.toNat_lt (by decide)).map UInt32.ofNat
  rwa [UInt32.ofNat_toNat] at takes

theorem optional_takes (time : Option UInt64) :
    (Reader.optional Settings.time).Takes (.ofOption (fun time => .nat time.toNat) time) time := by
  cases time with
  | none => exact Reader.optional_none
  | some time => exact Reader.optional_some time.toNat_lt (time_takes time)

theorem snapshot_faithful : Settings.snapshot.Faithful := by
  intro settings
  apply Reader.record_takes
  apply Reader.inObject_takes ⟨some settings.base, some settings.connectTimeout,
    some settings.requestTimeout, some settings.maxRetries⟩
  · refine .step ⟨some settings.base, none, none, none⟩ ?_
      (.step ⟨some settings.base, some settings.connectTimeout, none, none⟩ ?_
        (.step ⟨some settings.base, some settings.connectTimeout, some settings.requestTimeout, none⟩ ?_
          (.step _ ?_ (.done _))))
    · exact (Reader.once_takes "base_path" (Reader.string_takes settings.base)).map _
    · exact (Reader.once_takes "connect_timeout_secs" (time_takes settings.connectTimeout)).map _
    · exact (Reader.once_takes "request_timeout_secs" (optional_takes settings.requestTimeout)).map _
    · exact (Reader.once_takes "max_retries" (count_takes settings.maxRetries)).map _
  · exact fun text => .pure _ text

/-- Settings may tell no more than where the endpoint is. -/
theorem read_base (base : String) :
    Settings.snapshot.read (Tree.object [("base_path", .string base)]).text = .ok (ofBase base) := by
  apply Snapshot.read_text
  apply Reader.record_takes
  apply Reader.inObject_takes ⟨some base, none, none, none⟩
  · refine .step _ ?_ (.done _)
    exact (Reader.once_takes "base_path" (Reader.string_takes base)).map _
  · exact fun text => .pure _ text

end Settings

/-! Tagged records. -/

theorem decodeMembers_step {fields : List (String × Scalar)} {read : List (String × Decoded)} {name : String}
    {value : Tree} {type : Scalar} {decoded : Decoded} {rest : List (String × Tree)}
    (known : fields.lookup name = some type) (fresh : read.lookup name = none)
    (taken : value.asScalar type = .ok decoded) :
    decodeMembers fields read ((name, value) :: rest) =
      decodeMembers fields (read ++ [(name, decoded)]) rest := by
  simp only [decodeMembers, known, fresh, taken, Option.isSome_none, Bool.false_eq_true, ↓reduceIte]

/-- A tagged record is what its kind makes of the fields that are decoded for it. -/
theorem Reader.takes_fields {α : Type} {tag name : String} {known : List (String × α)} {kind a : α}
    {members : List (String × Tree)} {values : List Decoded} (expected : String) (variant : α → String)
    (fields : α → List (String × Scalar)) (withFields : α → List Decoded → α)
    (found : known.lookup name = some kind)
    (plain : ∀ field ∈ members, field.1 ≠ tag ∧ field.2.Plain)
    (decoded : (Tree.object members).fields (variant kind) (fields kind) = .ok values)
    (made : withFields kind values = a) :
    (do
      let (kind, rest) ← Reader.tagged tag known expected
      let values ← Reader.checked (rest.fields (variant kind) (fields kind))
      return withFields kind values).Takes (.object ((tag, .string name) :: members)) a := by
  intro rest ends
  refine .bind (Reader.tagged_takes found plain rest ends) ?_
  simp only [decoded, Reader.checked]
  exact made ▸ .map (.pure values rest) _

namespace RowAction

variable {action sample : RowAction} {members : List (String × Tree)} {values : List Decoded}

theorem reader_takes (known : sample ∈ samples)
    (plain : ∀ field ∈ members, field.1 ≠ "action" ∧ field.2.Plain)
    (decoded : (Tree.object members).fields sample.variantName sample.fields = .ok values)
    (made : sample.withFields values = action) :
    reader.Takes (.object (("action", .string sample.tag) :: members)) action :=
  Reader.takes_fields _ variantName fields withFields (Snapshot.lookup_named (by decide) known) plain
    decoded made

theorem snapshot_faithful : RowAction.snapshot.Faithful := by
  intro action
  cases action with
  | save candidate =>
      apply reader_takes (show save "" ∈ samples by decide)
      · simpa using Tree.Plain.text candidate
      · rfl
      · rfl
  | edit | delete | confirmDelete | cancelDelete =>
      exact reader_takes (by decide) nofun rfl rfl

end RowAction

namespace RequestError

variable {e sample : RequestError} {members : List (String × Tree)} {values : List Decoded}

theorem reader_takes (known : sample ∈ samples)
    (plain : ∀ field ∈ members, field.1 ≠ "code" ∧ field.2.Plain)
    (decoded : (Tree.object members).fields ("ClientError::" ++ sample.code) sample.fields = .ok values)
    (made : sample.withFields values = e) :
    reader.Takes (.object (("code", .string sample.code) :: members)) e := by
  have found : (Snapshot.named samples code).lookup sample.code = some sample :=
    Snapshot.lookup_named (by decide) known
  have takes := Reader.takes_fields "internally tagged enum ClientError"
    (fun kind => "ClientError::" ++ kind.code) fields withFields found plain decoded made
  exact takes

/-- A body is kept as a string, or as null if there is none. -/
theorem body_plain (body : Option String) : (Tree.ofOption .string body).Plain := by
  cases body with
  | none => exact .null
  | some text => exact .text text

theorem answered_fields (variant operation : String) (status : UInt16) (body : Option String) :
    (Tree.object [("operation", .string operation), ("status", .nat status.toNat),
      ("raw_message", .ofOption .string body)]).fields variant (answered "" 0 none).fields =
        .ok [.text operation, .natural status.toNat, .optionalText body] := by
  have below : status.toNat < UInt16.size := status.toNat_lt
  have value : (UInt64.ofNat status.toNat).toNat = status.toNat :=
    UInt64.toNat_ofNat_of_lt' (Nat.lt_trans below (by decide))
  have number : (Tree.nat status.toNat).asScalar (.naturalBelow UInt16.size "u16") =
      .ok (.natural status.toNat) := by
    simp only [Tree.nat, Tree.asScalar, Number.below, value, below, ↓reduceIte]
    rfl
  have text : (Tree.ofOption Tree.string body).asScalar .optionalText = .ok (.optionalText body) := by
    cases body <;> rfl
  have decoded : decodeMembers (answered "" 0 none).fields []
      [("operation", .string operation), ("status", .nat status.toNat),
        ("raw_message", .ofOption .string body)] =
          .ok [("operation", .text operation), ("status", .natural status.toNat),
            ("raw_message", .optionalText body)] :=
    (decodeMembers_step rfl rfl rfl).trans
      ((decodeMembers_step rfl rfl number).trans (decodeMembers_step rfl rfl text))
  simp only [Tree.fields]
  rw [decoded]
  rfl

theorem snapshot_faithful : RequestError.snapshot.Faithful := by
  intro e
  cases e with
  | network operation detail =>
      apply reader_takes (show network "" "" ∈ samples by decide)
      · simpa using ⟨Tree.Plain.text operation, Tree.Plain.text detail⟩
      · rfl
      · rfl
  | timeout operation detail =>
      apply reader_takes (show timeout "" "" ∈ samples by decide)
      · simpa using ⟨Tree.Plain.text operation, Tree.Plain.text detail⟩
      · rfl
      · rfl
  | answered operation status body =>
      apply reader_takes (show answered "" 0 none ∈ samples by decide)
      · have fits : status.toNat < UInt64.size := Nat.lt_trans status.toNat_lt (by decide)
        simpa using ⟨Tree.Plain.text operation, Tree.Plain.nat fits, body_plain body⟩
      · exact answered_fields _ operation status body
      · simp [withFields]
  | badConfig parameter detail =>
      apply reader_takes (show badConfig "" "" ∈ samples by decide)
      · simpa using ⟨Tree.Plain.text parameter, Tree.Plain.text detail⟩
      · rfl
      · rfl

end RequestError

/-! Round trips. -/

/-- What was written is read as it was. So is what was read, when it has been written again, whatever the text
left out or held in excess. -/
structure Snapshot.RoundTrips {α : Type} (snapshot : Snapshot α) : Prop where
  written : ∀ a, snapshot.read (snapshot.write a) = .ok a
  restored : ∀ text a, snapshot.read text = .ok a → snapshot.read (snapshot.write a) = .ok a

theorem Snapshot.Faithful.roundTrips {α : Type} {snapshot : Snapshot α} (faithful : snapshot.Faithful) :
    snapshot.RoundTrips where
  written := faithful.read_write
  restored _ a _ := faithful.read_write a

/-- Every snapshot round-trips, and so do settings as the host of the editor gives them. -/
theorem snapshots_round_trip :
    RowState.snapshot.RoundTrips ∧ RowAction.snapshot.RoundTrips ∧ Entry.snapshot.RoundTrips ∧
    View.snapshot.RoundTrips ∧ Outcome.snapshot.RoundTrips ∧ FeedbackKind.snapshot.RoundTrips ∧
    Banner.snapshot.RoundTrips ∧ Stripe.snapshot.RoundTrips ∧ Rejection.snapshot.RoundTrips ∧
    Operation.snapshot.RoundTrips ∧ RequestError.snapshot.RoundTrips ∧ Settings.snapshot.RoundTrips ∧
    (∀ settings, Settings.ofJson (Settings.snapshot.write settings) = .ok settings) ∧
    ∀ text settings, Settings.ofJson text = .ok settings →
      Settings.ofJson (Settings.snapshot.write settings) = .ok settings := by
  have given : ∀ settings, Settings.ofJson (Settings.snapshot.write settings) = .ok settings := by
    intro settings
    simp only [Settings.ofJson, Settings.snapshot_faithful.read_write settings]
  exact ⟨RowState.snapshot_faithful.roundTrips, RowAction.snapshot_faithful.roundTrips,
    Entry.snapshot_faithful.roundTrips, View.snapshot_faithful.roundTrips,
    Outcome.snapshot_faithful.roundTrips, FeedbackKind.snapshot_faithful.roundTrips,
    Banner.snapshot_faithful.roundTrips, Stripe.snapshot_faithful.roundTrips,
    Rejection.snapshot_faithful.roundTrips, Operation.snapshot_faithful.roundTrips,
    RequestError.snapshot_faithful.roundTrips, Settings.snapshot_faithful.roundTrips, given,
    fun _ settings _ => given settings⟩

end CatalogueEditor
