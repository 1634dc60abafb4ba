import CatalogueEditor.Session.Operations
import CatalogueEditor.Snapshot.Catalogue

/-!
Snapshots of feedback kinds, banners, rejections and outcomes. An outcome is written as what kind of
outcome it is and a value, in either order; when the value comes first it is kept until the kind
tells what it must be.
-/

namespace CatalogueEditor

open Json

def FeedbackKind.snapshot : Snapshot FeedbackKind := .ofNames FeedbackKind.all FeedbackKind.name

def Banner.snapshot : Snapshot Banner := .ofNames Banner.all Banner.name

namespace Rejection

def all : List Rejection := [keyRequired, invalidContent]

def name : Rejection → String
  | keyRequired => "keyRequired"
  | invalidContent => "invalidContent"

def snapshot : Snapshot Rejection := .ofNames all name

end Rejection

namespace Outcome

inductive Kind
  | transitioned
  | rejected
  | completed
deriving DecidableEq

def Kind.all : List Kind := [.transitioned, .rejected, .completed]

def Kind.name : Kind → String
  | transitioned => "transitioned"
  | rejected => "rejected"
  | completed => "completed"

def encode (outcome : Outcome) : Tree :=
  let (kind, value) : Kind × Tree :=
    match outcome with
    | transitioned state => (.transitioned, RowState.snapshot.encode state)
    | rejected reason => (.rejected, Rejection.snapshot.encode reason)
    | completed kind => (.completed, FeedbackKind.snapshot.encode kind)
  .object [("outcome", .string kind.name), ("value", value)]

/-- The value of an outcome whose kind is known. -/
def readValue : Kind → Reader Outcome
  | .transitioned => return transitioned (← RowState.snapshot.reader)
  | .rejected => return rejected (← Rejection.snapshot.reader)
  | .completed => return completed (← FeedbackKind.snapshot.reader)

/-- The outcome of a kind whose value was kept. -/
def ofKept (value : Tree) : Kind → Except Cause Outcome
  | .transitioned => (value.asVariant (Snapshot.named RowState.all RowState.name)).map transitioned
  | .rejected => (value.asVariant (Snapshot.named Rejection.all Rejection.name)).map rejected
  | .completed =>
      (value.asVariant (Snapshot.named FeedbackKind.all FeedbackKind.name)).map completed

def readKind : Reader Kind := .enumeration (Snapshot.named Kind.all Kind.name)

/-- How far the two members of an outcome have been read. -/
inductive Draft
  | nothing
  | kind (kind : Kind)
  | value (value : Tree)
  | both (outcome : Outcome)

def readMember (draft : Draft) (name : String) : Reader Draft := do
  match draft, name with
  | .nothing, "outcome" =>
      Reader.colon
      return .kind (← readKind)
  | .nothing, "value" =>
      Reader.colon
      return .value (← Reader.tree depthLimit)
  | .kind kind, "value" =>
      Reader.colon
      return .both (← readValue kind)
  | .value value, "outcome" =>
      Reader.colon
      return .both (← Reader.checked (ofKept value (← readKind)))
  | _, "outcome" => Reader.failFloating (.duplicateField name)
  | _, "value" => Reader.failFloating (.duplicateField name)
  | draft, _ =>
      Reader.unknownMember
      return draft

def fromObject : Reader Outcome := do
  match ← Reader.members readMember .nothing with
  | .nothing => Reader.failFloating (.missingField "outcome")
  | .kind _ => Reader.failFloating (.missingField "value")
  | .value _ => Reader.failFloating (.missingField "outcome")
  | .both outcome => return outcome

/-- In a list the kind is always written as its name. -/
def fromList : Reader Outcome := do
  let expected := "adjacently tagged enum RowOutcome"
  let kind ← Reader.field 0 expected (.variant (Snapshot.named Kind.all Kind.name))
  Reader.field 1 expected (readValue kind)

def snapshot : Snapshot Outcome where
  encode := encode
  reader := .record "adjacently tagged enum RowOutcome" fromList fromObject

end Outcome

end CatalogueEditor
