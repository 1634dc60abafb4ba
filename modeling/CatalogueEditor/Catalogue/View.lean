import CatalogueEditor.Catalogue.Row
import CatalogueEditor.Error
import CatalogueEditor.Log
import CatalogueEditor.Text.Blank

/-!
The catalogue view: messages in the order of the page, looked up by key. Adding keeps keys distinct,
updates leave the order as it is, and what is refused changes nothing.
-/

namespace CatalogueEditor

structure Entry where
  key : String
  value : String
  state : RowState
deriving DecidableEq

/-- The id of the row's input field: the key with underscores in place of its dots. -/
def Entry.fieldId (entry : Entry) : String :=
  String.ofList (entry.key.toList.map fun c => if c = '.' then '_' else c)

/-- The shading of alternate rows, which follows from the position. -/
inductive Stripe
  | odd
  | even
deriving DecidableEq

def Stripe.all : List Stripe := [.odd, .even]

def Stripe.name : Stripe → String
  | odd => "odd"
  | even => "even"

/-- The stripe of a row, counted from zero: the first row is an odd one. -/
def Stripe.ofIndex (index : Nat) : Stripe :=
  if index % 2 = 0 then odd else even

/-- The entries in the order of the page. Views that the editor builds have distinct keys; a view
read from a snapshot may repeat one, and then lookups find its first entry. -/
structure View where
  entries : List Entry
deriving DecidableEq

namespace View

def empty : View := ⟨[]⟩

def keys (view : View) : List String :=
  view.entries.map Entry.key

def get? (view : View) (key : String) : Option Entry :=
  view.entries.find? (·.key == key)

def contains (view : View) (key : String) : Bool :=
  view.entries.any (·.key == key)

def position? (view : View) (key : String) : Option Nat :=
  view.entries.findIdx? (·.key == key)

def size (view : View) : Nat :=
  view.entries.length

def modifyFirst (test : Entry → Bool) (change : Entry → Entry) : List Entry → List Entry
  | [] => []
  | entry :: rest =>
      if test entry then change entry :: rest else entry :: modifyFirst test change rest

def modify (view : View) (key : String) (change : Entry → Entry) : View :=
  ⟨modifyFirst (·.key == key) change view.entries⟩

def setState (view : View) (key : String) (state : RowState) : View :=
  view.modify key fun entry => { entry with state }

def setAll (view : View) (state : RowState) : View :=
  ⟨view.entries.map fun entry => { entry with state }⟩

def push (view : View) (entry : Entry) : Except EditorError View :=
  if view.contains entry.key then .error (.duplicateKey entry.key)
  else .ok ⟨view.entries ++ [entry]⟩

/-- Updates the value of a row that is being viewed, or appends a row; tells whether it appended. -/
def upsert (view : View) (key value : String) : Except EditorError (View × Bool) :=
  match view.get? key with
  | none => .ok (⟨view.entries ++ [⟨key, value, .viewing⟩]⟩, true)
  | some entry =>
      if entry.state = .viewing then .ok (view.modify key fun entry => { entry with value }, false)
      else .error (.invalidTransition key entry.state.display "add")

def erase (view : View) (key : String) : View :=
  ⟨view.entries.eraseP (·.key == key)⟩

def stripes (view : View) : List Stripe :=
  (List.range view.size).map Stripe.ofIndex

/-- The first entry whose deletion waits for confirmation. -/
def pendingDelete? (view : View) : Option String :=
  (view.entries.find? (·.state == .confirmingDelete)).map Entry.key

/-- Adds one message of a page to a view that is being seeded, with what is logged about it: blank
keys and repeated keys are skipped. -/
def seedOne (view : View) (message : String × String) : View × List LogLine :=
  if Text.trim message.1 = "" then
    (view, [⟨.warn, "Skipping catalogue entry with a blank key"⟩])
  else
    match view.push ⟨message.1, message.2, .viewing⟩ with
    | .ok view => (view, [])
    | .error e => (view, [⟨.warn, "Skipping catalogue entry: " ++ e.message⟩])

/-- Seeds a view with the messages of a page and logs those it skips. -/
def seedFrom (view : View) : List (String × String) → View × List LogLine
  | [] => (view, [])
  | message :: rest =>
      let (next, log) := view.seedOne message
      let (final, more) := next.seedFrom rest
      (final, log ++ more)

def ofMessages (messages : List (String × String)) : View :=
  (empty.seedFrom messages).1

end View

end CatalogueEditor
