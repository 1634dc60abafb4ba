import CatalogueEditor.Endpoint.Client
import CatalogueEditor.Session.Steps

/-!
Sessions that are online: every call that a step issues is made at once, and its reply delivered,
before the next step.
-/

namespace CatalogueEditor

structure OnlineSession where
  config : EndpointConfig
  session : Session
  endpoint : Endpoint

namespace OnlineSession

def step (online : OnlineSession) (command : Step) : OnlineSession × Report :=
  let (next, report) := online.session.step command
  match report.answer, report.call with
  | .inFlight ticket, some call =>
      let run := Client.perform online.config call online.endpoint
      let (final, whole) := next.settle report ticket run.reply run.log
      ({ online with session := final, endpoint := run.endpoint }, whole)
  | _, _ => ({ online with session := next }, report)

end OnlineSession

end CatalogueEditor
