/-!
Log records as data: a level and a text.
-/

namespace CatalogueEditor

inductive Level
  | debug
  | info
  | warn
  | error
deriving DecidableEq

def Level.name : Level → String
  | debug => "DEBUG"
  | info => "INFO"
  | warn => "WARN"
  | error => "ERROR"

structure LogLine where
  level : Level
  text : String
deriving DecidableEq

def LogLine.render (line : LogLine) : String :=
  line.level.name ++ " " ++ line.text

end CatalogueEditor
