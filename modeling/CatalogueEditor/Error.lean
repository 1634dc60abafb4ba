import CatalogueEditor.Endpoint.RequestError

/-!
Errors of the editor. Failures of requests made for a row are not among them while the editor runs:
they end the operation as a failure, which is an outcome.
-/

namespace CatalogueEditor

/-- A transition is refused in the state of the row, or of the add dialog, that the error names. -/
inductive EditorError
  | entryNotFound (key : String)
  | duplicateKey (key : String)
  | invalidTransition (key state action : String)
  | validation (reason : String)
  | client (cause : RequestError)
deriving DecidableEq

namespace EditorError

/-- What kind of error it is, as snapshots name it. -/
def code : EditorError → String
  | entryNotFound .. => "EntryNotFound"
  | duplicateKey .. => "DuplicateKey"
  | invalidTransition .. => "InvalidTransition"
  | validation .. => "ValidationError"
  | client .. => "Client"

def message : EditorError → String
  | entryNotFound key => "Entry not found: " ++ key
  | duplicateKey key => "Duplicate key: " ++ key
  | invalidTransition key state action => "Cannot " ++ action ++ " '" ++ key ++ "' while " ++ state
  | validation reason => "Validation error: " ++ reason
  | client cause => cause.message

def isExpected : EditorError → Bool
  | client cause => cause.isExpected
  | _ => true

end EditorError

end CatalogueEditor
