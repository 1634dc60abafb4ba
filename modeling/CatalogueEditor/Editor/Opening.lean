import CatalogueEditor.Editor.Page
import CatalogueEditor.Editor.Settings
import CatalogueEditor.Session.Steps

/-!
Opening the editor. It needs a page, and a client for the page's catalogue: one that is given, or
one that is made from the settings. Then it shows the messages that were rendered with the page.
-/

namespace CatalogueEditor

/-- What an editor is opened with; a client that is given is known by its catalogue. -/
structure Setup where
  pageUrl : Option String
  settings : Option Settings
  client : Option String
  messages : List (String × String)

/-- Who makes the editor's calls: somebody else, or the editor itself over HTTP. -/
inductive Caller
  | given (catalogue : String)
  | http (config : EndpointConfig)
deriving DecidableEq

def Caller.catalogue : Caller → String
  | given catalogue => catalogue
  | http config => config.catalogue

/-- An editor that is open: its page, its client, and its session with one add dialog. -/
structure Editor where
  page : Page
  caller : Caller
  session : Session
deriving DecidableEq

namespace Setup

def caller (setup : Setup) (page : Page) : Except EditorError (Caller × List LogLine) :=
  match setup.client, setup.settings with
  | some catalogue, _ =>
      .ok (.given catalogue,
        if catalogue = page.catalogue then []
        else
          [⟨.warn, "Injected client targets catalogue " ++ catalogue ++ " but the page shows " ++
            page.catalogue⟩])
  | none, none => .error (.validation "config is required")
  | none, some settings =>
      let config := settings.endpoint page.catalogue
      match config.check with
      | .error cause => .error (.client cause)
      | .ok () => .ok (.http config, [])

def openEditor (setup : Setup) : Except EditorError (Editor × List LogLine) := do
  match setup.pageUrl with
  | none => .error (.validation "page_url is required")
  | some url =>
      let page ← Page.read url
      let (caller, callerLog) ← setup.caller page
      let (view, viewLog) := View.empty.seedFrom setup.messages
      let opened : LogLine := ⟨.info, "Editing catalogue " ++ page.catalogue ++ " (" ++
        toString view.size ++ " messages)"⟩
      return (⟨page, caller, .opening view 1⟩, callerLog ++ viewLog ++ [opened])

end Setup

end CatalogueEditor
