import CatalogueEditor.Endpoint.Config
import CatalogueEditor.Error
import CatalogueEditor.Snapshot.Basic

/-!
Settings of the editor, which its host gives as JSON: where the endpoint is, and how patient to be
with it.
-/

namespace CatalogueEditor

open Json

/-- Times are in seconds. -/
structure Settings where
  base : String
  connectTimeout : UInt64
  requestTimeout : Option UInt64
  maxRetries : UInt32
deriving DecidableEq

namespace Settings

def defaultConnectTimeout : UInt64 := 10

def ofBase (base : String) : Settings :=
  ⟨base, defaultConnectTimeout, none, 0⟩

def encode (settings : Settings) : Tree :=
  .object [("base_path", .string settings.base),
    ("connect_timeout_secs", .nat settings.connectTimeout.toNat),
    ("request_timeout_secs", .ofOption (fun time => .nat time.toNat) settings.requestTimeout),
    ("max_retries", .nat settings.maxRetries.toNat)]

def time : Reader UInt64 :=
  return UInt64.ofNat (← Reader.naturalBelow UInt64.size "u64")

def count : Reader UInt32 :=
  return UInt32.ofNat (← Reader.naturalBelow UInt32.size "u32")

/-- The members of settings that were read. -/
structure Draft where
  base : Option String
  connectTimeout : Option UInt64
  requestTimeout : Option (Option UInt64)
  maxRetries : Option UInt32

def readMember (draft : Draft) (name : String) : Reader Draft := do
  match name with
  | "base_path" => return { draft with base := ← Reader.once name draft.base.isSome .string }
  | "connect_timeout_secs" =>
      return { draft with
        connectTimeout := ← Reader.once name draft.connectTimeout.isSome time }
  | "request_timeout_secs" =>
      return { draft with
        requestTimeout := some (← Reader.once name draft.requestTimeout.isSome (.optional time)) }
  | "max_retries" =>
      return { draft with maxRetries := ← Reader.once name draft.maxRetries.isSome count }
  | _ =>
      Reader.unknownMember
      return draft

def fromObject : Reader Settings := do
  let draft ← Reader.members readMember ⟨none, none, none, none⟩
  let base ← Reader.required "base_path" draft.base
  return ⟨base, draft.connectTimeout.getD defaultConnectTimeout,
    draft.requestTimeout.getD none, draft.maxRetries.getD 0⟩

def fromList : Reader Settings := do
  let base ← Reader.field 0 "struct EditorConfig with 4 elements" .string
  let connectTimeout ← Reader.fieldOr 1 defaultConnectTimeout time
  let requestTimeout ← Reader.fieldOr 2 none (.optional time)
  return ⟨base, connectTimeout, requestTimeout, ← Reader.fieldOr 3 0 count⟩

def snapshot : Snapshot Settings where
  encode := encode
  reader := .record "struct EditorConfig" fromList fromObject

def ofJson (json : String) : Except EditorError Settings :=
  match snapshot.read json with
  | .ok settings => .ok settings
  | .error failure => .error (.validation ("invalid editor config: " ++ failure.message))

def endpoint (settings : Settings) (catalogue : String) : EndpointConfig where
  base := settings.base
  catalogue := catalogue
  connectTimeout := settings.connectTimeout.toNat * 1000
  requestTimeout := settings.requestTimeout.map (·.toNat * 1000)
  maxRetries := settings.maxRetries

end Settings

end CatalogueEditor
