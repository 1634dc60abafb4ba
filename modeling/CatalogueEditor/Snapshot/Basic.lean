import CatalogueEditor.Json.Tagged

/-!
Snapshots: values written as JSON and read back. What is written is compact and complete; what is
read may leave out what has a default, and may hold more than is asked for.
-/

namespace CatalogueEditor

open Json

structure Snapshot (α : Type) where
  encode : α → Tree
  reader : Reader α

namespace Snapshot

variable {α : Type}

def write (snapshot : Snapshot α) (a : α) : String :=
  (snapshot.encode a).text

def read (snapshot : Snapshot α) (text : String) : Except Failure α :=
  snapshot.reader.readAll text

def named (all : List α) (name : α → String) : List (String × α) :=
  all.map fun a => (name a, a)

def ofNames (all : List α) (name : α → String) : Snapshot α where
  encode a := .string (name a)
  reader := .enumeration (named all name)

end Snapshot

end CatalogueEditor
