import CatalogueEditor.Json.Compound
import CatalogueEditor.Json.Numeral

/-!
Values that are passed over: those of unknown members. Only their form is checked, so numbers may be
of any size, escapes need not make characters, and lists and objects may be nested without limit.
-/

namespace CatalogueEditor.Json

namespace Reader

/-- At least one digit must follow. -/
def ignoredExponent : Reader Unit := do
  skip
  let sign ← peek
  if sign = some '+' ∨ sign = some '-' then skip
  let digits ← takeWhile isDigit
  if digits = [] then failAhead .badNumber

def ignoredDecimals : Reader Unit := do
  skip
  let digits ← takeWhile isDigit
  let next ← peek
  if digits = [] then failAhead .badNumber
  else if next = some 'e' ∨ next = some 'E' then ignoredExponent

/-- What follows the first digit of a number. -/
def ignoredDigits (first : Char) : Reader Unit := do
  let digits ← lookWhile isDigit
  if first = '0' ∧ digits ≠ [] then failAhead .badNumber
  else
    let _ ← takeWhile isDigit
    let next ← peek
    if next = some '.' then ignoredDecimals
    else if next = some 'e' ∨ next = some 'E' then ignoredExponent

def startsScalar (first : Char) : Bool :=
  first == 'n' || first == 't' || first == 'f' || first == '"' || first == '-' || isDigit first

def ignoredTail (first : Char) : Reader Unit :=
  if first = 'n' then letters "ull".toList
  else if first = 't' then letters "rue".toList
  else if first = 'f' then letters "alse".toList
  else if first = '"' then ignoredBody
  else if first = '-' then do
    match ← peek with
    | none => fail .badNumber
    | some c =>
        if isDigit c then
          skip
          ignoredDigits c
        else failAhead .badNumber
  else ignoredDigits first

def ignoredName : Reader Unit := do
  match ← peekToken with
  | none => fail .endInObject
  | some c =>
      if c = '"' then
        ignoredString
        colon
      else failAhead .keyNotString

end Reader

/-- A bracket that is open. -/
inductive Bracket
  | list
  | object
deriving DecidableEq

def Bracket.opening : Char → Option Bracket
  | '[' => some .list
  | '{' => some .object
  | _ => none

def Bracket.closing : Bracket → Char
  | list => ']'
  | object => '}'

def Bracket.endCause : Bracket → Cause
  | list => .endInList
  | object => .endInObject

def Bracket.commaCause : Bracket → Cause
  | list => .expectedListEnd
  | object => .expectedObjectEnd

/-- What comes before the value of an item: in an object its name. -/
def Bracket.beforeItem : Bracket → Reader Unit
  | list => pure ()
  | object => Reader.ignoredName

/-- Behind the first character that is no white space there is less text. -/
theorem shorter {c : Cursor} {first : Char} {rest : List Char}
    (found : c.passSpace.rest = first :: rest) : rest.length < c.rest.length := by
  have := Cursor.pass_length Cursor.isSpace c
  have := congrArg List.length found
  simp only [Cursor.passSpace, List.length_cons] at *
  omega

/-- What is read next: a value, the end or the first item behind an opening bracket, or what
follows a value. -/
inductive Phase
  | value
  | opened
  | closed
deriving DecidableEq

def Phase.weight : Phase → Nat
  | value => 0
  | opened => 1
  | closed => 0

/-- Passes over the rest of a value inside open brackets, the innermost first. -/
def ignoreFrom (phase : Phase) (brackets : List Bracket) (c : Cursor) :
    Except Failure (Unit × Cursor) :=
  match phase, brackets, found : c.passSpace.rest with
  | .closed, [], _ => .ok ((), c)
  | .value, _, [] => .error (.placed .endInValue c.passSpace.place)
  | .opened, [], _ => .ok ((), c)
  | .opened, bracket :: _, [] => .error (.placed bracket.endCause c.passSpace.place)
  | .closed, bracket :: _, [] => .error (.placed bracket.endCause c.passSpace.place)
  | .value, _, first :: rest =>
      match Bracket.opening first with
      | some bracket =>
          have := shorter found
          ignoreFrom .opened (bracket :: brackets) ⟨c.passSpace.place.after first, rest⟩
      | none =>
          if Reader.startsScalar first then
            match read : (Reader.ignoredTail first).run ⟨c.passSpace.place.after first, rest⟩ with
            | .error e => .error e
            | .ok (_, next) =>
                have := shorter found
                have := (Reader.ignoredTail first).shrinks read
                ignoreFrom .closed brackets next
          else .error (.placed .expectedValue c.passSpace.ahead)
  | .opened, bracket :: outer, first :: rest =>
      if first = bracket.closing then
        have := shorter found
        ignoreFrom .closed outer ⟨c.passSpace.place.after first, rest⟩
      else
        match read : bracket.beforeItem.run c.passSpace with
        | .error e => .error e
        | .ok (_, next) =>
            have := bracket.beforeItem.shrinks read
            have := Cursor.pass_length Cursor.isSpace c
            ignoreFrom .value (bracket :: outer) next
  | .closed, bracket :: outer, first :: rest =>
      if first = bracket.closing then
        have := shorter found
        ignoreFrom .closed outer ⟨c.passSpace.place.after first, rest⟩
      else if first = ',' then
        match read : bracket.beforeItem.run ⟨c.passSpace.place.after first, rest⟩ with
        | .error e => .error e
        | .ok (_, next) =>
            have := shorter found
            have := bracket.beforeItem.shrinks read
            ignoreFrom .value (bracket :: outer) next
      else .error (.placed bracket.commaCause c.passSpace.ahead)
termination_by 2 * c.rest.length + phase.weight
decreasing_by all_goals simp_all only [Phase.weight, Cursor.passSpace]; omega

theorem ignoreFrom_length {phase : Phase} {brackets : List Bracket} {c after : Cursor}
    (read : ignoreFrom phase brackets c = .ok ((), after)) :
    after.rest.length ≤ c.rest.length := by
  fun_induction ignoreFrom phase brackets c <;> simp_all
  all_goals
    have := shorter ‹Cursor.rest (Cursor.passSpace _) = _ :: _›
    omega

def Reader.ignored : Reader Unit where
  run c := ignoreFrom .value [] c
  shrinks h := ignoreFrom_length h

end CatalogueEditor.Json
