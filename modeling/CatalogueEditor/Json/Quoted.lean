import CatalogueEditor.Json.Reader
import CatalogueEditor.Text.Digit

/-!
Strings in JSON text. Characters beyond the first plane may be escaped as two surrogates, which must
come as a pair. A string that is passed over is held to less: its escapes need not make characters.
-/

namespace CatalogueEditor.Json

open Text

/-- The place so many bytes further on, inside a character if they end there. -/
def Place.skipBytes (place : Place) : Nat → List Char → Place
  | _, [] => place
  | n, c :: rest =>
      if c.utf8Size ≤ n then (place.after c).skipBytes (n - c.utf8Size) rest
      else ⟨place.line, place.column + n⟩

def letterEscape (c : Char) : Option Char :=
  match c with
  | '"' => some '"'
  | '\\' => some '\\'
  | '/' => some '/'
  | 'b' => some '\x08'
  | 'f' => some '\x0c'
  | 'n' => some '\n'
  | 'r' => some '\r'
  | 't' => some '\t'
  | _ => none

def isLeading (code : Nat) : Bool :=
  0xD800 ≤ code && code ≤ 0xDBFF

def isTrailing (code : Nat) : Bool :=
  0xDC00 ≤ code && code ≤ 0xDFFF

/-- The character that a pair of surrogates stands for. -/
def ofSurrogates (leading trailing : Nat) : Char :=
  Char.ofNat (0x10000 + (leading - 0xD800) * 0x400 + (trailing - 0xDC00))

namespace Reader

/-- Four bytes of a string that should be hexadecimal digits. -/
def hexEscape : Reader Nat where
  run c :=
    match c.rest with
    | a :: b :: x :: d :: rest =>
        match digitsValue 16 0 [a, b, x, d] with
        | some code => .ok (code, ⟨⟨c.place.line, c.place.column + 4⟩, rest⟩)
        | none => .error (wrong c)
    | _ => .error (wrong c)
  shrinks h := by
    split at h
    · rename_i a b x d rest same
      split at h
      · simp only [Except.ok.injEq, Prod.mk.injEq] at h
        rw [same, ← h.2]
        simp only [List.length_cons]
        omega
      · simp at h
    · simp at h
where
  /-- The string may also end before four bytes. -/
  wrong (c : Cursor) : Failure :=
    if utf8Length c.rest < 4 then .placed .endInString (c.place.skipBytes (utf8Length c.rest) c.rest)
    else .placed .badEscape (c.place.skipBytes 4 c.rest)

/-- Reads a character of a string that must be this one. -/
def expectInEscape (expected : Char) : Reader Unit := do
  match ← peek with
  | none => fail .endInString
  | some c => if c = expected then skip else failAhead .unfinishedEscape

def escapedCode (code : Nat) : Reader Char := do
  if isTrailing code then fail .loneSurrogate
  else if isLeading code then
    expectInEscape '\\'
    expectInEscape 'u'
    let second ← hexEscape
    if isTrailing second then return ofSurrogates code second
    else fail .loneSurrogate
  else return Char.ofNat code

def escape : Reader Char := do
  match ← peek with
  | none => fail .endInString
  | some 'u' =>
      skip
      escapedCode (← hexEscape)
  | some c =>
      match letterEscape c with
      | some found =>
          skip
          return found
      | none => failAhead .badEscape

/-- An escape that is passed over. -/
def ignoredEscape : Reader Unit := do
  match ← peek with
  | none => fail .endInString
  | some 'u' =>
      skip
      let _ ← hexEscape
  | some c => if (letterEscape c).isSome then skip else failAhead .badEscape

end Reader

/-- Reads a string behind its opening quote; `done` holds the characters read, last first. -/
def stringFrom (done : List Char) (place : Place) (text : List Char) :
    Except Failure (String × Cursor) :=
  match text with
  | [] => .error (.placed .endInString place)
  | c :: rest =>
      if c = '"' then .ok (String.ofList done.reverse, ⟨place.after c, rest⟩)
      else if c = '\\' then
        match found : Reader.escape.run ⟨place.after c, rest⟩ with
        | .error e => .error e
        | .ok (escaped, next) =>
            have := Reader.escape.shrinks found
            stringFrom (escaped :: done) next.place next.rest
      else if c.toNat < 32 then .error (.placed .controlCharacter (place.after c))
      else stringFrom (c :: done) (place.after c) rest
termination_by text.length
decreasing_by all_goals simp_all only [List.length_cons]; omega

/-- Passes over a string behind its opening quote. -/
def ignoreStringFrom (place : Place) (text : List Char) : Except Failure (Unit × Cursor) :=
  match text with
  | [] => .error (.placed .endInString place)
  | c :: rest =>
      if c = '"' then .ok ((), ⟨place.after c, rest⟩)
      else if c = '\\' then
        match found : Reader.ignoredEscape.run ⟨place.after c, rest⟩ with
        | .error e => .error e
        | .ok (_, next) =>
            have := Reader.ignoredEscape.shrinks found
            ignoreStringFrom next.place next.rest
      else if c.toNat < 32 then .error (.placed .controlCharacter place)
      else ignoreStringFrom (place.after c) rest
termination_by text.length
decreasing_by all_goals simp_all only [List.length_cons]; omega

theorem stringFrom_length {done text : List Char} {place : Place} {s : String} {after : Cursor}
    (found : stringFrom done place text = .ok (s, after)) : after.rest.length < text.length := by
  fun_induction stringFrom done place text
  case case1 => simp at found
  case case2 =>
    simp only [Except.ok.injEq, Prod.mk.injEq] at found
    rw [← found.2]
    simp
  case case3 => simp at found
  case case4 read shrunk ih =>
    have := ih found
    simp only [List.length_cons] at shrunk ⊢
    omega
  case case5 => simp at found
  case case6 ih =>
    have := ih found
    simp only [List.length_cons]
    omega

theorem ignoreStringFrom_length {text : List Char} {place : Place} {after : Cursor}
    (found : ignoreStringFrom place text = .ok ((), after)) : after.rest.length < text.length := by
  fun_induction ignoreStringFrom place text
  case case1 => simp at found
  case case2 =>
    simp only [Except.ok.injEq, Prod.mk.injEq, true_and] at found
    rw [← found]
    simp
  case case3 => simp at found
  case case4 read shrunk ih =>
    have := ih found
    simp only [List.length_cons] at shrunk ⊢
    omega
  case case5 => simp at found
  case case6 ih =>
    have := ih found
    simp only [List.length_cons]
    omega

namespace Reader

def stringBody : Reader String where
  run c := stringFrom [] c.place c.rest
  shrinks h := Nat.le_of_lt (stringFrom_length h)

def quoted : Reader String := do
  skip
  stringBody

def ignoredBody : Reader Unit where
  run c := ignoreStringFrom c.place c.rest
  shrinks h := Nat.le_of_lt (ignoreStringFrom_length h)

def ignoredString : Reader Unit := do
  skip
  ignoredBody

end Reader

end CatalogueEditor.Json
