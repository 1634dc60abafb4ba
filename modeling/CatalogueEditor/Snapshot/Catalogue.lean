import CatalogueEditor.Catalogue.View
import CatalogueEditor.Snapshot.Basic

/-!
Snapshots of row states, row actions, entries, views and stripes. A view is read as the list of its
entries, as they stand.
-/

namespace CatalogueEditor

open Json

def RowState.snapshot : Snapshot RowState := .ofNames RowState.all RowState.name

def Stripe.snapshot : Snapshot Stripe := .ofNames Stripe.all Stripe.name

namespace RowAction

/-- What kind of action it is, as snapshots name it. -/
def tag : RowAction → String
  | edit => "edit"
  | save _ => "save"
  | delete => "delete"
  | confirmDelete => "confirmDelete"
  | cancelDelete => "cancelDelete"

def fields : RowAction → List (String × Scalar)
  | save _ => [("candidate", .text)]
  | _ => []

def withFields (action : RowAction) (values : List Decoded) : RowAction :=
  match action, values with
  | save _, [.text candidate] => save candidate
  | action, _ => action

def encode (action : RowAction) : Tree :=
  .object (("action", .string action.tag) ::
    match action with
    | save candidate => [("candidate", .string candidate)]
    | _ => [])

def variantName : RowAction → String
  | edit => "RowAction::Edit"
  | save _ => "RowAction::Save"
  | delete => "RowAction::Delete"
  | confirmDelete => "RowAction::ConfirmDelete"
  | cancelDelete => "RowAction::CancelDelete"

def reader : Reader RowAction := do
  let (kind, rest) ← Reader.tagged "action" (Snapshot.named samples tag)
    "internally tagged enum RowAction"
  let values ← Reader.checked (rest.fields kind.variantName kind.fields)
  return kind.withFields values

def snapshot : Snapshot RowAction := ⟨encode, reader⟩

end RowAction

namespace Entry

def encode (entry : Entry) : Tree :=
  .object [("key", .string entry.key), ("value", .string entry.value),
    ("rowState", RowState.snapshot.encode entry.state)]

structure Draft where
  key : Option String
  value : Option String
  state : Option RowState

def readMember (draft : Draft) (name : String) : Reader Draft := do
  match name with
  | "key" => return { draft with key := ← Reader.once name draft.key.isSome .string }
  | "value" => return { draft with value := ← Reader.once name draft.value.isSome .string }
  | "rowState" =>
      return { draft with
        state := ← Reader.once name draft.state.isSome RowState.snapshot.reader }
  | _ =>
      Reader.unknownMember
      return draft

def fromObject : Reader Entry := do
  let draft ← Reader.members readMember ⟨none, none, none⟩
  let key ← Reader.required "key" draft.key
  let value ← Reader.required "value" draft.value
  return ⟨key, value, draft.state.getD .viewing⟩

def fromList : Reader Entry := do
  let expected := "struct MessageEntry with 3 elements"
  let key ← Reader.field 0 expected .string
  let value ← Reader.field 1 expected .string
  return ⟨key, value, ← Reader.fieldOr 2 .viewing RowState.snapshot.reader⟩

def snapshot : Snapshot Entry where
  encode := encode
  reader := .record "struct MessageEntry" fromList fromObject

end Entry

def View.snapshot : Snapshot View where
  encode view := .list (view.entries.map Entry.encode)
  reader := return ⟨← Reader.list Entry.snapshot.reader⟩

end CatalogueEditor
