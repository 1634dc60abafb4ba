import CatalogueEditor.Endpoint.Operation
import CatalogueEditor.Endpoint.RequestError

/-!
Calls to the catalogue endpoint, the form fields that they carry, and replies to them.
-/

namespace CatalogueEditor

inductive Call
  | save (key value : String)
  | add (key value : String)
  | remove (key : String)
deriving DecidableEq

namespace Call

def key : Call → String
  | save key _ => key
  | add key _ => key
  | remove key => key

def operation : Call → Operation
  | save .. => .save
  | add .. => .add
  | remove .. => .remove

/-- The form fields of a call that is made for a catalogue, in the order in which they are sent. -/
def fields (catalogue : String) : Call → List (String × String)
  | save key value =>
      [("message-key", key), ("message-value", value), ("message-catalogue", catalogue)]
  | add key value =>
      [("message-key", key), ("message-value", value), ("message-catalogue", catalogue)]
  | remove key => [("message-key", key), ("message-catalogue", catalogue)]

end Call

inductive Reply
  | ok
  | failed (cause : RequestError)
deriving DecidableEq

end CatalogueEditor
