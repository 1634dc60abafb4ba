import CatalogueEditor.Json.Quoted

/-!
Lists and objects in JSON text: their brackets, the marks between their items, and the loops over
them. The loops end because each round consumes a comma or the quote of a name.
-/

namespace CatalogueEditor.Json

namespace Reader

variable {α σ : Type}

def colon : Reader Unit := do
  match ← peekToken with
  | none => fail .endInObject
  | some c => if c = ':' then skip else failAhead .expectedColon

/-- Whether another item follows in a list; the comma before it is read. -/
def hasItem (first : Bool) : Reader Bool := do
  match ← peekToken with
  | none => fail .endInList
  | some ']' => return false
  | some c =>
      if first then return true
      else if c = ',' then
        skip
        match ← peekToken with
        | none => fail .endInValue
        | some ']' => failAhead .trailingComma
        | some _ => return true
      else failAhead .expectedListEnd

def nextItem (first : Bool) (item : Reader α) : Reader (Option α) := do
  if ← hasItem first then
    return some (← item)
  else return none

/-- Whether another member follows in an object, with the cursor at the quote of its name. -/
def hasMember (first : Bool) : Reader Bool := do
  match ← peekToken with
  | none => fail .endInObject
  | some '}' => return false
  | some c =>
      if first then
        if c = '"' then return true else failAhead .keyNotString
      else if c = ',' then
        skip
        match ← peekToken with
        | none => fail .endInValue
        | some '"' => return true
        | some '}' => failAhead .trailingComma
        | some _ => failAhead .keyNotString
      else failAhead .expectedObjectEnd

def listEnd : Reader Unit := do
  match ← peekToken with
  | none => fail .endInList
  | some ']' => skip
  -- One value too many, or only a comma too many.
  | some ',' =>
      skip
      match ← peekToken with
      | some ']' => failAhead .trailingComma
      | _ => failAhead .trailingCharacters
  | some _ => failAhead .trailingCharacters

def objectEnd : Reader Unit := do
  match ← peekToken with
  | none => fail .endInObject
  | some '}' => skip
  | some ',' => failAhead .trailingComma
  | some _ => failAhead .trailingCharacters

end Reader

/-- Where the attempt to read the end of a list leaves the cursor. -/
def Cursor.towardListEnd (c : Cursor) : Cursor :=
  match c.passSpace.rest.head? with
  | some ']' => c.passSpace.skip
  | some ',' => c.passSpace.skip.passSpace
  | _ => c.passSpace

/-- Where the attempt to read the end of an object leaves the cursor. -/
def Cursor.towardObjectEnd (c : Cursor) : Cursor :=
  match c.passSpace.rest.head? with
  | some '}' => c.passSpace.skip
  | _ => c.passSpace

/-- The cursor behind a comma and the white space after it. -/
def Cursor.afterComma (place : Place) (rest : List Char) : Cursor :=
  (Cursor.mk (place.after ',') rest).passSpace

theorem Cursor.afterComma_length (place : Place) (rest : List Char) :
    (afterComma place rest).rest.length ≤ rest.length :=
  pass_length isSpace ⟨place.after ',', rest⟩

/-- Reads the items of a list behind those in `done`, which holds the last one first. -/
def itemsFrom {α : Type} (item : Reader α) (done : List α) (c : Cursor) :
    Except Failure (List α × Cursor) :=
  match marked : c.passSpace.rest with
  | [] => .error (.placed .endInList c.passSpace.place)
  | mark :: rest =>
      if mark = ']' then .ok (done.reverse, c.passSpace)
      else if mark = ',' then
        match (Cursor.afterComma c.passSpace.place rest).rest.head? with
        | none => .error (.placed .endInValue (Cursor.afterComma c.passSpace.place rest).place)
        | some ']' =>
            .error (.placed .trailingComma (Cursor.afterComma c.passSpace.place rest).ahead)
        | some _ =>
            match found : item.run (Cursor.afterComma c.passSpace.place rest) with
            | .error e => .error e
            | .ok (a, next) =>
                have : next.rest.length < c.rest.length := by
                  have := item.shrinks found
                  have := Cursor.afterComma_length c.passSpace.place rest
                  have := Cursor.pass_length Cursor.isSpace c
                  have := congrArg List.length marked
                  simp only [Cursor.passSpace, List.length_cons] at *
                  omega
                itemsFrom item (a :: done) next
      else .error (.placed .expectedListEnd c.passSpace.ahead)
termination_by c.rest.length

theorem itemsFrom_length {α : Type} {item : Reader α} {done found : List α} {c after : Cursor}
    (read : itemsFrom item done c = .ok (found, after)) : after.rest.length ≤ c.rest.length := by
  fun_induction itemsFrom item done c
  case case2 c _ _ =>
    simp only [Except.ok.injEq, Prod.mk.injEq] at read
    rw [← read.2]
    exact Cursor.pass_length _ c
  case case6 shrunk ih =>
    exact Nat.le_trans (ih read) (Nat.le_of_lt shrunk)
  all_goals simp at read

/-- Reads the members of an object, each of which changes a state. -/
def membersFrom {σ : Type} (member : σ → String → Reader σ) (first : Bool) (state : σ)
    (c : Cursor) : Except Failure (σ × Cursor) :=
  match more : (Reader.hasMember first).run c with
  | .error e => .error e
  | .ok (false, here) => .ok (state, here)
  | .ok (true, here) =>
      match named : stringFrom [] here.skip.place here.skip.rest with
      | .error e => .error e
      | .ok (name, valued) =>
          match found : (member state name).run valued with
          | .error e => .error e
          | .ok (state, next) =>
              have := (Reader.hasMember first).shrinks more
              have := here.skip_length
              have := stringFrom_length named
              have := (member _ name).shrinks found
              membersFrom member false state next
termination_by c.rest.length

theorem membersFrom_length {σ : Type} {member : σ → String → Reader σ} {first : Bool}
    {state found : σ} {c after : Cursor}
    (read : membersFrom member first state c = .ok (found, after)) :
    after.rest.length ≤ c.rest.length := by
  fun_induction membersFrom member first state c
  case case2 more =>
    simp only [Except.ok.injEq, Prod.mk.injEq] at read
    rw [← read.2]
    exact (Reader.hasMember _).shrinks more
  case case5 ih =>
    have := ih read
    omega
  all_goals simp at read

namespace Reader

variable {α σ : Type}

def moreItems (item : Reader α) (done : List α) : Reader (List α) where
  run c := itemsFrom item done c
  shrinks h := itemsFrom_length h

def items (item : Reader α) : Reader (List α) := do
  match ← nextItem true item with
  | none => return []
  | some a => moreItems item [a]

def members (member : σ → String → Reader σ) (state : σ) : Reader σ where
  run c := membersFrom member true state c
  shrinks h := membersFrom_length h

/-- A list, at its opening bracket, with what is read between its brackets. -/
def inList (inner : Reader α) : Reader α :=
  closedBy (do skip; inner) listEnd Cursor.towardListEnd

/-- An object, at its opening bracket, with what is read between its brackets. -/
def inObject (inner : Reader α) : Reader α :=
  closedBy (do skip; inner) objectEnd Cursor.towardObjectEnd

end Reader

end CatalogueEditor.Json
