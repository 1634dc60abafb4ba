import CatalogueEditor.Endpoint.Call
import CatalogueEditor.Endpoint.Exchange
import CatalogueEditor.Log

/-!
Making calls over HTTP. A call is one form that is posted; it succeeds if the endpoint answers with
a status of success, whatever the body says. A call that failed for now is made again as often as
the configuration allows, after waits that double.
-/

namespace CatalogueEditor

namespace Call

def formType : String := "application/x-www-form-urlencoded"

def body (call : Call) (catalogue : String) : List Char :=
  Form.write ((call.fields catalogue).map fun field => (field.1.toList, field.2.toList))

def request (config : EndpointConfig) (call : Call) : Except UrlProblem Request :=
  match Url.ofText (config.address call.operation) with
  | .error problem => .error problem
  | .ok url => .ok ⟨.post, url, some formType, call.body config.catalogue⟩

def intent : Call → String
  | save key value => "Saving message " ++ key ++ " = " ++ Text.summarize value
  | add key value => "Adding message " ++ key ++ " = " ++ Text.summarize value
  | remove key => "Removing message " ++ key

end Call

abbrev Ending := Except RequestError Unit

namespace Client

/-- Tells log lines of one request from those of others; `ID` stands for an identifier. -/
def requestMark : String := " (request ID)"

def debug (operation : Operation) (text : String) : LogLine :=
  ⟨.debug, "[" ++ operation.name ++ "] " ++ text ++ requestMark⟩

/-- A failure to get a response, as an error of an operation. -/
def ofFault (operation : Operation) : Fault → RequestError
  | .silent => .timeout operation.name Fault.silent.message
  | fault => .network operation.name fault.message

/-- What a response means for an operation. -/
def ending (operation : Operation) (response : Response) : Ending :=
  if Status.isSuccess response.status then .ok ()
  else
    .error (.answered operation.name response.status
      (if response.text = "" then none else some response.text))

/-- What is logged about a response: its status, and its body unless all is well. -/
def responseLog (operation : Operation) (response : Response) : List LogLine :=
  debug operation ("Response Status: " ++ Status.display response.status) ::
    if Status.isSuccess response.status then []
    else [debug operation ("Response Body: " ++ Text.summarize response.text)]

structure Attempt where
  ending : Ending
  log : List LogLine
  endpoint : Endpoint

def attempt (operation : Operation) (address : String) (request : Except UrlProblem Request)
    (endpoint : Endpoint) : Attempt :=
  let sent := debug operation ("POST " ++ address)
  match request with
  | .error _ => ⟨.error (ofFault operation .badAddress), [sent], endpoint⟩
  | .ok request =>
      match endpoint.send request with
      | (.error fault, endpoint) => ⟨.error (ofFault operation fault), [sent], endpoint⟩
      | (.ok response, endpoint) =>
          ⟨ending operation response, sent :: responseLog operation response, endpoint⟩

/-- How long to wait before an attempt is repeated, in milliseconds: a tenth of a second after the
first attempt, twice as long after each further one, and never more than five seconds. -/
def wait (attempt : UInt32) : UInt64 :=
  let doublings := (min attempt 16).toUInt64
  min (100 * ((1 : UInt64) <<< doublings)) 5000

def inSeconds (milliseconds : UInt64) : String :=
  toString (milliseconds / 1000) ++ "." ++ toString (milliseconds % 1000 / 100)

/-- The numbers of an attempt and of all attempts, as the log counts them. -/
def attemptCount (attempt maxRetries : UInt32) : UInt32 × UInt32 :=
  (attempt + 1, maxRetries + 1)

def retryLine (operation : Operation) (attempt maxRetries : UInt32) (cause : RequestError) :
    LogLine :=
  let (number, total) := attemptCount attempt maxRetries
  ⟨.warn, "[" ++ operation.name ++ "] Request failed (attempt " ++ toString number ++ "/" ++
    toString total ++ "), retrying in " ++ inSeconds (wait attempt) ++ "s: " ++ cause.message⟩

/-- A run of attempts: the failures that were followed by another attempt, the waits behind them,
how the last attempt ended, and the log. -/
structure Run where
  failures : List RequestError
  waits : List UInt64
  ending : Ending
  log : List LogLine
  endpoint : Endpoint

namespace Run

def ofAttempt (attempt : Attempt) : Run :=
  ⟨[], [], attempt.ending, attempt.log, attempt.endpoint⟩

def endings (run : Run) : List Ending :=
  run.failures.map .error ++ [run.ending]

def reply (run : Run) : Reply :=
  match run.ending with
  | .ok () => .ok
  | .error cause => .failed cause

def logged (run : Run) (lines : List LogLine) : Run :=
  { run with log := lines ++ run.log }

def behind (run : Run) (cause : RequestError) (pause : UInt64) : Run :=
  { run with failures := cause :: run.failures, waits := pause :: run.waits }

end Run

/-- Repeats an attempt while it fails for now and repetitions are left; `number` counts the attempts
before. -/
def repeated (operation : Operation) (maxRetries : UInt32) (act : Endpoint → Attempt) :
    (left : Nat) → (number : UInt32) → Endpoint → Run
  | 0, _, endpoint => .ofAttempt (act endpoint)
  | left + 1, number, endpoint =>
      let attempt := act endpoint
      match attempt.ending with
      | .ok () => .ofAttempt attempt
      | .error cause =>
          if cause.isRetryable then
            let rest := repeated operation maxRetries act left (number + 1) attempt.endpoint
            (rest.behind cause (wait number)).logged
              (attempt.log ++ [retryLine operation number maxRetries cause])
          else .ofAttempt attempt

/-- Why a request without an address is not repeated. -/
def noRepetition (operation : Operation) (config : EndpointConfig) : List LogLine :=
  if config.maxRetries = 0 then []
  else [⟨.warn, "[" ++ operation.name ++ "] Cannot clone request, disabling retry"⟩]

def perform (config : EndpointConfig) (call : Call) (endpoint : Endpoint) : Run :=
  let operation := call.operation
  let request := call.request config
  let act := attempt operation (config.address operation) request
  let run :=
    match request with
    -- Without an address there is nothing to send a second time.
    | .error _ => (Run.ofAttempt (act endpoint)).logged (noRepetition operation config)
    | .ok _ => repeated operation config.maxRetries act config.maxRetries.toNat 0 endpoint
  run.logged [⟨.debug, call.intent⟩]

end Client

end CatalogueEditor
