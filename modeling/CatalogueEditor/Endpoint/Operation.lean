/-!
The operations of the catalogue endpoint.
-/

namespace CatalogueEditor

/-- Save changes an existing message, add also creates one, remove deletes one. -/
inductive Operation
  | save
  | add
  | remove
deriving DecidableEq

def Operation.all : List Operation := [.save, .add, .remove]

def Operation.name : Operation → String
  | save => "save"
  | add => "add"
  | remove => "remove"

def Operation.path (operation : Operation) : String :=
  "/admin/catalogue/message/" ++ operation.name

end CatalogueEditor
