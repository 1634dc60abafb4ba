/-!
What the editor tells about the outcome of an operation: an indicator in the row and a banner on the
page, each of one of three kinds.
-/

namespace CatalogueEditor

inductive FeedbackKind
  | success
  | failure
  | warning
deriving DecidableEq

/-- How a kind of feedback looks: an icon, a text for screen readers and a class of the row. -/
structure Indicator where
  kind : FeedbackKind
  icon : String
  readerText : String
  containerClass : String
deriving DecidableEq

namespace FeedbackKind

def all : List FeedbackKind := [success, failure, warning]

def name : FeedbackKind → String
  | success => "success"
  | failure => "failure"
  | warning => "warning"

def indicator : FeedbackKind → Indicator
  | success => ⟨success, "glyphicon-ok", "(success)", "has-success"⟩
  | failure => ⟨failure, "glyphicon-remove", "(error)", "has-error"⟩
  | warning => ⟨warning, "glyphicon-warning-sign", "(warning)", "has-warning"⟩

end FeedbackKind

namespace Indicator

/-- The class of every row that shows an indicator. -/
def feedbackClass : String := "has-feedback"

def classes (indicator : Indicator) : String :=
  indicator.containerClass ++ " " ++ feedbackClass

def markup (indicator : Indicator) : String :=
  "<span class=\"result-indicator glyphicon " ++ indicator.icon ++
    " form-control-feedback\" aria-hidden=\"true\"></span>" ++
    "<span class=\"result-indicator sr-only\">" ++ indicator.readerText ++ "</span>"

end Indicator

inductive Banner
  | saveSucceeded
  | saveFailed
  | addSucceeded
  | addFailed
  | deleteSucceeded
  | deleteFailed
  | invalidContent
deriving DecidableEq

namespace Banner

def all : List Banner :=
  [saveSucceeded, saveFailed, addSucceeded, addFailed, deleteSucceeded, deleteFailed,
    invalidContent]

def name : Banner → String
  | saveSucceeded => "saveSucceeded"
  | saveFailed => "saveFailed"
  | addSucceeded => "addSucceeded"
  | addFailed => "addFailed"
  | deleteSucceeded => "deleteSucceeded"
  | deleteFailed => "deleteFailed"
  | invalidContent => "invalidContent"

def kind : Banner → FeedbackKind
  | saveSucceeded => .success
  | addSucceeded => .success
  | deleteSucceeded => .success
  | saveFailed => .failure
  | addFailed => .failure
  | deleteFailed => .failure
  | invalidContent => .warning

/-- The id of the banner's element on the page. -/
def elementId : Banner → String
  | saveSucceeded => "successSaveAlert"
  | saveFailed => "errorSaveAlert"
  | addSucceeded => "successAddAlert"
  | addFailed => "errorAddAlert"
  | deleteSucceeded => "successDeleteAlert"
  | deleteFailed => "errorDeleteAlert"
  | invalidContent => "warningInvalidXmlAlert"

end Banner

end CatalogueEditor
