import CatalogueEditor.Json.Ignored

/-!
Readers of typed values, straight from text. An enumeration is written as a name or as an object with
that name and null, a record as an object or as a list of its fields. Fields that a record does not
know are passed over. What a value should have been is told by the names given to the readers.
-/

namespace CatalogueEditor.Json

/-- The natural number that a number is, if it lies below a limit. -/
def Number.below (limit : Nat) (expected : String) : Number → Except Cause Nat
  | natural n =>
      if n.toNat < limit then .ok n.toNat else .error (.wrongValue (.integer n.toNat) expected)
  | negative n => .error (.wrongValue (.integer n) expected)
  | fraction text => .error (.wrongType (.fraction text) expected)

/-- The value with this name in an enumeration. -/
def variant? {α : Type} (known : List (String × α)) (name : String) : Except Cause α :=
  match known.lookup name with
  | some a => .ok a
  | none => .error (.unknownVariant name (known.map Prod.fst))

namespace Reader

variable {α σ : Type}

/-- A value that was found, or a failure that is still to be placed. -/
def checked : Except Cause α → Reader α
  | .ok a => pure a
  | .error cause => failFloating cause

def wrongTypeHere (expected : String) : Reader α := do
  match ← peekToken with
  | none => fail .endInValue
  | some c =>
      if c = 'n' then
        skip
        letters "ull".toList
        failFloating (.wrongType .null expected)
      else if c = 't' then
        skip
        letters "rue".toList
        failFloating (.wrongType (.bool true) expected)
      else if c = 'f' then
        skip
        letters "alse".toList
        failFloating (.wrongType (.bool false) expected)
      else if startsNumber c then
        failFloating (.wrongType (← number c).found expected)
      else if c = '"' then
        failFloating (.wrongType (.string (← quoted)) expected)
      else if c = '[' then failFloating (.wrongType .list expected)
      else if c = '{' then failFloating (.wrongType .object expected)
      else failAhead .expectedValue

def string : Reader String := settled do
  if (← peekToken) = some '"' then quoted else wrongTypeHere "a string"

def unit : Reader Unit := settled do
  if (← peekToken) = some 'n' then
    skip
    letters "ull".toList
  else wrongTypeHere "unit"

def optional (r : Reader α) : Reader (Option α) := do
  if (← peekToken) = some 'n' then
    skip
    letters "ull".toList
    return none
  else return some (← r)

def naturalBelow (limit : Nat) (expected : String) : Reader Nat := settled do
  match ← peekToken with
  | none => fail .endInValue
  | some c =>
      if startsNumber c then checked ((← number c).below limit expected)
      else wrongTypeHere expected

def variant (known : List (String × α)) : Reader α := settled do
  if (← peekToken) = some '"' then checked (variant? known (← quoted))
  else wrongTypeHere "variant identifier"

/-- A value of an enumeration whose variants have no content. -/
def enumeration (known : List (String × α)) : Reader α := do
  match ← peekToken with
  | none => fail .endInValue
  | some c =>
      if c = '"' then variant known
      else if c = '{' then
        skip
        if ← hasMember true then
          let a ← variant known
          colon
          unit
          match ← peekToken with
          | none => fail .endInObject
          | some '}' =>
              skip
              return a
          | some _ => fail .expectedValue
        else failAhead .expectedValue
      else failAhead .expectedValue

/-- A record: one reader for its fields in a list, one for its members in an object. -/
def record (expected : String) (fromList fromObject : Reader α) : Reader α := settled do
  match ← peekToken with
  | some '[' => inList fromList
  | some '{' => inObject fromObject
  | _ => wrongTypeHere expected

def list (item : Reader α) : Reader (List α) := settled do
  if (← peekToken) = some '[' then inList (items item) else wrongTypeHere "a sequence"

/-- A member's value behind its colon, for a field that may be given only once. -/
def once (name : String) (given : Bool) (r : Reader α) : Reader α := do
  if given then failFloating (.duplicateField name)
  else
    colon
    r

/-- The value of a member that nobody asks for. -/
def unknownMember : Reader Unit := do
  colon
  ignored

/-- A field that must be given. -/
def required (name : String) : Option α → Reader α
  | some a => pure a
  | none => failFloating (.missingField name)

def field (index : Nat) (expected : String) (r : Reader α) : Reader α := do
  match ← nextItem (index == 0) r with
  | some a => return a
  | none => failFloating (.wrongLength index expected)

/-- The next field of a record that is written as a list, if the list goes on. -/
def fieldOr (index : Nat) (default : α) (r : Reader α) : Reader α := do
  return (← nextItem (index == 0) r).getD default

def readAll (r : Reader α) (text : String) : Except Failure α :=
  match r.run (.start text) with
  | .error e => .error e
  | .ok (a, c) =>
      match c.passSpace.rest with
      | [] => .ok a
      | _ :: _ => .error (.placed .trailingCharacters c.passSpace.ahead)

end Reader

end CatalogueEditor.Json
