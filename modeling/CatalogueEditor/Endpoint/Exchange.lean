import CatalogueEditor.Endpoint.Config
import CatalogueEditor.Endpoint.Status
import CatalogueEditor.Text.Utf8

/-!
Requests and what comes back for them. The endpoint is a script of deliveries, one for each request
in the order in which requests arrive; it keeps a record of what it got and what it delivered. A
response that names another location is followed there.
-/

namespace CatalogueEditor

inductive Method
  | get
  | post
deriving DecidableEq

def Method.name : Method → String
  | get => "GET"
  | post => "POST"

structure Request where
  method : Method
  url : Url
  contentType : Option String
  body : List Char
deriving DecidableEq

def Request.target (request : Request) : List Char :=
  request.url.renderPath ++ request.url.renderQuery

/-- A body that is cut breaks off before its announced end. -/
structure Response where
  status : UInt16
  body : List UInt8
  isCut : Bool
  location : Option String
deriving DecidableEq

/-- The body as text. A body that cannot be read to its end counts as empty. -/
def Response.text (response : Response) : String :=
  if response.isCut ∨ Status.isBodiless response.status then ""
  else String.ofList (Text.ofUtf8 response.body)

inductive Delivery
  | response (response : Response)
  /-- The connection is closed without a response. -/
  | closed
  /-- No response comes before time is up. -/
  | silent
deriving DecidableEq

inductive Fault
  | unreachable
  | closed
  | silent
  | badAddress
  | tooManyRedirects
deriving DecidableEq

def Fault.message : Fault → String
  | unreachable => "cannot connect"
  | closed => "connection closed before the response"
  | silent => "operation timed out"
  | badAddress => "invalid address"
  | tooManyRedirects => "too many redirects"

/-- A request that arrived, with what was delivered for it. -/
structure Exchange where
  request : Request
  delivery : Delivery
deriving DecidableEq

/-- Requests arrive only if the endpoint is listening. When its script has ended it answers that all
is well. -/
structure Endpoint where
  isListening : Bool
  script : List Delivery
  exchanges : List Exchange
deriving DecidableEq

namespace Endpoint

def fine : Delivery := .response ⟨200, [], false, none⟩

def take (endpoint : Endpoint) (request : Request) : Option Delivery × Endpoint :=
  if endpoint.isListening then
    let delivery := endpoint.script.head?.getD fine
    (some delivery,
      { endpoint with
        script := endpoint.script.tail
        exchanges := endpoint.exchanges ++ [⟨request, delivery⟩] })
  else (none, endpoint)

/-- Statuses after which the same request is sent to the new location. -/
def repeatsRequest (status : UInt16) : Bool :=
  status == 307 || status == 308

/-- Statuses after which the new location is only read. -/
def readsLocation (status : UInt16) : Bool :=
  status == 301 || status == 302 || status == 303

/-- The request that follows a response, if the response names a location that can be read. -/
def followUp? (request : Request) (response : Response) : Option Request :=
  match response.location.map (request.url.resolve ·.toList) with
  | some (.ok url) =>
      if repeatsRequest response.status then some { request with url }
      else if readsLocation response.status then some ⟨.get, url, none, []⟩
      else none
  | _ => none

def redirectLimit : Nat := 10

/-- Sends a request and follows it to at most so many other locations. -/
def sendWithin (limit : Nat) (request : Request) (endpoint : Endpoint) :
    Except Fault Response × Endpoint :=
  match endpoint.take request with
  | (none, endpoint) => (.error .unreachable, endpoint)
  | (some .closed, endpoint) => (.error .closed, endpoint)
  | (some .silent, endpoint) => (.error .silent, endpoint)
  | (some (.response response), endpoint) =>
      match followUp? request response, limit with
      | none, _ => (.ok response, endpoint)
      | some _, 0 => (.error .tooManyRedirects, endpoint)
      | some next, limit + 1 =>
          -- Locations may be of any scheme, but requests are sent on the web only.
          if EndpointConfig.schemes.contains next.url.scheme then sendWithin limit next endpoint
          else (.error .badAddress, endpoint)

def send (request : Request) (endpoint : Endpoint) : Except Fault Response × Endpoint :=
  sendWithin redirectLimit request endpoint

end Endpoint

end CatalogueEditor
