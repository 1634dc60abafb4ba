import CatalogueEditor.Text.Summary

/-!
Why a request to the catalogue endpoint failed. Two questions are asked about a failure: may the
same request succeed when it is sent again, and was it refused rather than broken on its way?
-/

namespace CatalogueEditor

/-- The first three name the operation that failed. An answer that is no success has a status and,
unless it is empty or cannot be read, a body. -/
inductive RequestError
  | network (operation detail : String)
  | timeout (operation detail : String)
  | answered (operation : String) (status : UInt16) (body : Option String)
  | badConfig (parameter detail : String)
deriving DecidableEq

namespace RequestError

/-- What kind of failure it is, as snapshots name it. -/
def code : RequestError → String
  | network .. => "NetworkError"
  | timeout .. => "Timeout"
  | answered .. => "HttpStatus"
  | badConfig .. => "InvalidConfig"

def codes : List String := ["NetworkError", "Timeout", "HttpStatus", "InvalidConfig"]

/-- The statuses of a gateway that could not reach the endpoint for now. -/
def isGatewayStatus (status : UInt16) : Bool :=
  502 ≤ status && status ≤ 504

def isRetryable : RequestError → Bool
  | network .. => true
  | timeout .. => true
  | answered _ status _ => isGatewayStatus status
  | badConfig .. => false

/-- Whether the request was refused, by the endpoint or before it was sent. -/
def isExpected : RequestError → Bool
  | network .. => false
  | timeout .. => false
  | answered _ status _ => 400 ≤ status && status < 500
  | badConfig .. => true

def message : RequestError → String
  | network operation detail => "[" ++ operation ++ "] Network error: " ++ detail
  | timeout operation detail => "[" ++ operation ++ "] Request timeout: " ++ detail
  | answered operation status body =>
      let shown :=
        match body with
        | none => ""
        | some text => if text = "" then "" else ": " ++ Text.summarize text
      "[" ++ operation ++ "] HTTP " ++ toString status ++ shown
  | badConfig parameter detail =>
      "Invalid client configuration '" ++ parameter ++ "': " ++ detail

end RequestError

end CatalogueEditor
