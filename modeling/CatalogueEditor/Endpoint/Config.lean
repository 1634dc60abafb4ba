import CatalogueEditor.Endpoint.Operation
import CatalogueEditor.Endpoint.RequestError
import CatalogueEditor.Text.Blank
import CatalogueEditor.Url.Read

/-!
Where and how the catalogue endpoint is reached. The base is the address of the host page; it is
kept as it is given, and the paths of the operations are appended to it.
-/

namespace CatalogueEditor

/-- Times are in milliseconds; without a request timeout a request may take as long as it takes. -/
structure EndpointConfig where
  base : String
  catalogue : String
  connectTimeout : Nat
  requestTimeout : Option Nat
  /-- How often a request is sent again that failed for now. -/
  maxRetries : UInt32
deriving DecidableEq

namespace EndpointConfig

/-- How long a connection may take to be made unless the configuration says otherwise. -/
def defaultConnectTimeout : Nat := 10000

def ofBase (base catalogue : String) : EndpointConfig :=
  ⟨base, catalogue, defaultConnectTimeout, none, 0⟩

def withoutSlashes (text : String) : String :=
  String.ofList (Text.dropTrailing (· == '/') text.toList)

def address (config : EndpointConfig) (operation : Operation) : String :=
  withoutSlashes config.base ++ operation.path

def schemes : List (List Char) := ["http".toList, "https".toList]

/-- A configuration needs the complete address of a host page, and a catalogue. -/
def check (config : EndpointConfig) : Except RequestError Unit :=
  match Url.ofText config.base with
  | .error problem => .error (.badConfig "base_path" problem.message)
  | .ok url =>
      if url.scheme ∉ schemes then
        .error (.badConfig "base_path" ("unsupported scheme: " ++ String.ofList url.scheme))
      else if Text.trim config.catalogue = "" then
        .error (.badConfig "catalogue_id" "catalogue id must not be empty")
      else .ok ()

end EndpointConfig

end CatalogueEditor
