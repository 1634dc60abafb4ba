import CatalogueEditor.Error
import CatalogueEditor.Endpoint.Config
import CatalogueEditor.Url.Read

/-!
The page on which the editor is opened. Its URL names the catalogue that is shown, in the first
field of its query that is called so.
-/

namespace CatalogueEditor

structure Page where
  url : Url
  catalogue : String
deriving DecidableEq

namespace Page

def parameter : String := "catalogue"

def path : String := "/admin/catalogue/messages"

/-- The catalogue that a URL names, without blanks around it; a blank one is none. -/
def catalogue? (url : Url) : Option String :=
  ((Form.get? url.fields parameter).map fun value => String.ofList (Text.trimChars value)).filter
    (· != "")

def read (text : String) : Except EditorError Page :=
  match Url.ofText text with
  | .error problem => .error (.validation ("invalid page URL: " ++ problem.message))
  | .ok url =>
      match catalogue? url with
      | none => .error (.validation ("page URL has no '" ++ parameter ++ "' parameter"))
      | some catalogue => .ok ⟨url, catalogue⟩

/-- The URL of the editor's page for a catalogue, below the address of a host page. -/
def address (base catalogue : String) : Except EditorError String :=
  match Url.ofText (EndpointConfig.withoutSlashes base ++ path) with
  | .error problem => .error (.validation ("invalid base path: " ++ problem.message))
  | .ok url => .ok (url.addField (parameter.toList, catalogue.toList)).text

end Page

end CatalogueEditor
