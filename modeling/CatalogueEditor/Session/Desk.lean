import CatalogueEditor.Catalogue.View
import CatalogueEditor.Feedback.Screen

/-!
The desk: what one open editor holds. Its view, its add dialogs and its screen are shared by all
operations. A piece of work on the desk keeps, beside the desk it has made, the feedback events it
showed and the lines it logged, in order; the screen is always the screen at its start with those
events applied.
-/

namespace CatalogueEditor

inductive DialogPhase
  | closed
  | opened
  | submitting
deriving DecidableEq

def DialogPhase.all : List DialogPhase := [.closed, .opened, .submitting]

def DialogPhase.name : DialogPhase → String
  | closed => "closed"
  | opened => "open"
  | submitting => "submitting"

/-- An add dialog: its phase, the drafts of key and value, and which hints it shows. -/
structure Dialog where
  phase : DialogPhase
  key : String
  value : String
  keyError : Bool
  contentError : Bool
deriving DecidableEq

def Dialog.empty : Dialog := ⟨.closed, "", "", false, false⟩

structure Desk where
  view : View
  dialogs : List Dialog
  screen : Screen
deriving DecidableEq

/-- A desk with a view, so many empty dialogs, and nothing rendered yet. -/
def Desk.opening (view : View) (dialogs : Nat) : Desk :=
  ⟨view, List.replicate dialogs .empty, .blank⟩

structure Work where
  desk : Desk
  events : List Event
  log : List LogLine
deriving DecidableEq

namespace Work

def start (desk : Desk) : Work := ⟨desk, [], []⟩

def say (work : Work) (level : Level) (text : String) : Work :=
  { work with log := work.log ++ [⟨level, text⟩] }

def render (work : Work) (event : Event) : Work :=
  { desk := { work.desk with screen := work.desk.screen.apply event }
    events := work.events ++ [event]
    log := work.log ++ work.desk.screen.logOf event }

def changeView (work : Work) (change : View → View) : Work :=
  { work with desk := { work.desk with view := change work.desk.view } }

def setState (work : Work) (key : String) (state : RowState) : Work :=
  work.changeView (·.setState key state)

def setDialog (work : Work) (index : Nat) (dialog : Dialog) : Work :=
  { work with desk := { work.desk with dialogs := work.desk.dialogs.set index dialog } }

end Work

end CatalogueEditor
