import CatalogueEditor.Catalogue.Row
import CatalogueEditor.Feedback.Kind
import CatalogueEditor.Log

/-!
What the page shows: for each rendered row its state and its indicator, and at most one banner. The
screen takes feedback events and never answers back, so it is a function of the events it got.
-/

namespace CatalogueEditor

inductive Event
  | renderState (key : String) (state : RowState)
  | renderRow (key : String) (kind : FeedbackKind)
  | clearRow (key : String)
  | removeRow (key : String)
  | showBanner (banner : Banner)
  | hideBanners
  | dismiss (banner : Banner)
deriving DecidableEq

def Event.key? : Event → Option String
  | renderState key _ => some key
  | renderRow key _ => some key
  | clearRow key => some key
  | removeRow key => some key
  | _ => none

structure RenderedRow where
  state : RowState
  indicator : Option Indicator
deriving DecidableEq

/-- The rendered rows, each key once, and the visible banner. -/
structure Screen where
  rows : List (String × RenderedRow)
  banner : Option Banner
deriving DecidableEq

namespace Screen

def blank : Screen := ⟨[], none⟩

def row? (screen : Screen) (key : String) : Option RenderedRow :=
  screen.rows.lookup key

/-- Replaces what is rendered for a key, or renders it after the others. -/
def setRow (key : String) (row : RenderedRow) :
    List (String × RenderedRow) → List (String × RenderedRow)
  | [] => [(key, row)]
  | other :: rest => if other.1 = key then (key, row) :: rest else other :: setRow key row rest

/-- A row is created by the first event that renders its state or its indicator; until its state is
rendered it is viewing. -/
def updateRow (screen : Screen) (key : String) (change : RenderedRow → RenderedRow) : Screen :=
  { screen with rows := setRow key (change ((screen.row? key).getD ⟨.viewing, none⟩)) screen.rows }

def apply (screen : Screen) : Event → Screen
  | .renderState key state => screen.updateRow key fun row => { row with state }
  | .renderRow key kind => screen.updateRow key fun row => { row with indicator := kind.indicator }
  | .clearRow key =>
      if (screen.row? key).isSome then
        screen.updateRow key fun row => { row with indicator := none }
      else screen
  | .removeRow key => { screen with rows := screen.rows.filter (·.1 != key) }
  | .showBanner banner => { screen with banner }
  | .hideBanners => { screen with banner := none }
  | .dismiss banner =>
      if screen.banner = some banner then { screen with banner := none } else screen

/-- What is logged when a screen takes an event: a banner that replaces another one. -/
def logOf (screen : Screen) : Event → List LogLine
  | .showBanner banner =>
      match screen.banner with
      | none => []
      | some previous =>
          if previous = banner then []
          else
            [⟨.debug, "Banner " ++ previous.elementId ++ " replaced by " ++ banner.elementId⟩]
  | _ => []

end Screen

end CatalogueEditor
