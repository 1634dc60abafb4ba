/-!
The states of a row and the actions on it. The state is also the row's lock: while a request for the
row is in flight it is saving or deleting, and then it accepts no action.
-/

namespace CatalogueEditor

inductive RowState
  | viewing
  | editing
  | saving
  | confirmingDelete
  | deleting
deriving DecidableEq

/-- Saving carries the value in the input field. -/
inductive RowAction
  | edit
  | save (candidate : String)
  | delete
  | confirmDelete
  | cancelDelete
deriving DecidableEq

namespace RowState

def all : List RowState := [viewing, editing, saving, confirmingDelete, deleting]

/-- The state in snapshots. -/
def name : RowState → String
  | viewing => "viewing"
  | editing => "editing"
  | saving => "saving"
  | confirmingDelete => "confirmingDelete"
  | deleting => "deleting"

/-- The state in messages. -/
def display : RowState → String
  | confirmingDelete => "confirming delete"
  | state => state.name

def isBusy (state : RowState) : Bool :=
  state = saving ∨ state = deleting

def inputEnabled (state : RowState) : Bool :=
  state = editing

def icon : RowState → String
  | viewing => "glyphicon-edit"
  | confirmingDelete => "glyphicon-edit"
  | editing => "glyphicon-floppy-disk"
  | saving => "glyphicon-repeat right-spinner"
  | deleting => "glyphicon-repeat right-spinner"

/-- The transition table: which actions a row takes in which states. -/
def accepts (state : RowState) : RowAction → Bool
  | .edit => state = viewing
  | .save _ => state = editing
  | .delete => state = viewing ∨ state = editing
  | .confirmDelete => state = confirmingDelete
  | .cancelDelete => state = confirmingDelete

end RowState

/-- The action in messages, as what one does to a row. -/
def RowAction.name : RowAction → String
  | edit => "edit"
  | save _ => "save"
  | delete => "delete"
  | confirmDelete => "confirm delete of"
  | cancelDelete => "cancel delete of"

/-- One action of each kind; the saved value is empty. -/
def RowAction.samples : List RowAction := [edit, save "", delete, confirmDelete, cancelDelete]

def RowState.acceptedNames (state : RowState) : List String :=
  (RowAction.samples.filter state.accepts).map RowAction.name

end CatalogueEditor
