import CatalogueEditor.Endpoint.Operation
import CatalogueEditor.Error
import CatalogueEditor.Snapshot.Basic

/-!
Snapshots of operations and of request errors, and how editor errors are written.
-/

namespace CatalogueEditor

open Json

def Operation.snapshot : Snapshot Operation := .ofNames Operation.all Operation.name

namespace RequestError

/-- One error of each kind, with empty fields. -/
def samples : List RequestError :=
  [network "" "", timeout "" "", answered "" 0 none, badConfig "" ""]

def fields : RequestError → List (String × Scalar)
  | network .. => [("operation", .text), ("detail", .text)]
  | timeout .. => [("operation", .text), ("detail", .text)]
  | answered .. =>
      [("operation", .text), ("status", .naturalBelow UInt16.size "u16"),
        ("raw_message", .optionalText)]
  | badConfig .. => [("param", .text), ("detail", .text)]

/-- The error of the same kind with these fields. -/
def withFields (e : RequestError) (values : List Decoded) : RequestError :=
  match e, values with
  | network .., [.text operation, .text detail] => network operation detail
  | timeout .., [.text operation, .text detail] => timeout operation detail
  | answered .., [.text operation, .natural status, .optionalText body] =>
      answered operation (UInt16.ofNat status) body
  | badConfig .., [.text parameter, .text detail] => badConfig parameter detail
  | e, _ => e

def encode (e : RequestError) : Tree :=
  .object (("code", .string e.code) ::
    match e with
    | network operation detail => [("operation", .string operation), ("detail", .string detail)]
    | timeout operation detail => [("operation", .string operation), ("detail", .string detail)]
    | answered operation status body =>
        [("operation", .string operation), ("status", .nat status.toNat),
          ("raw_message", .ofOption .string body)]
    | badConfig parameter detail => [("param", .string parameter), ("detail", .string detail)])

def reader : Reader RequestError := do
  let (kind, rest) ← Reader.tagged "code" (Snapshot.named samples code)
    "internally tagged enum ClientError"
  let values ← Reader.checked (rest.fields ("ClientError::" ++ kind.code) kind.fields)
  return kind.withFields values

def snapshot : Snapshot RequestError := ⟨encode, reader⟩

end RequestError

namespace EditorError

def details : EditorError → Tree
  | entryNotFound key => .string key
  | duplicateKey key => .string key
  | invalidTransition key state action =>
      .object [("key", .string key), ("state", .string state), ("action", .string action)]
  | validation reason => .string reason
  | client cause => cause.encode

def encode (e : EditorError) : Tree :=
  .object [("code", .string e.code), ("details", e.details)]

end EditorError

end CatalogueEditor
