import CatalogueEditor.Json.Tagged

/-!
What readers make of the text of a tree. A reader takes the text of a value that it knows, in front of
anything that may follow a value, and leaves what follows. Places in the text do not matter for this: they
only tell where a failure is.
-/

namespace CatalogueEditor.Json

/-- In front of this text a value ends. -/
def Ends : List Char → Prop
  | [] => True
  | c :: _ => c = ',' ∨ c = ']' ∨ c = '}'

/-- No white space is passed over where there is none. -/
theorem passSpace_solid {c : Char} (place : Place) (rest : List Char) (solid : Cursor.isSpace c = false) :
    (Cursor.mk place (c :: rest)).passSpace = ⟨place, c :: rest⟩ := by
  simp [Cursor.passSpace, Cursor.pass, Cursor.passIn, solid]

namespace Reader

variable {α β : Type} {r : Reader α} {f : α → Reader β} {a : α} {b : β} {c : Char} {place : Place}
  {text middle rest : List Char}

/-- From this text the reader reads the value and leaves the rest, wherever the text stands. -/
def Reads (r : Reader α) (text : List Char) (a : α) (rest : List Char) : Prop :=
  ∀ place, ∃ after, r.run ⟨place, text⟩ = .ok (a, ⟨after, rest⟩)

/-- The reader takes the text of the tree for the value. -/
def Takes (r : Reader α) (tree : Tree) (a : α) : Prop :=
  ∀ rest, Ends rest → r.Reads (tree.render ++ rest) a rest

namespace Reads

theorem pure (a : α) (text : List Char) : (Pure.pure a : Reader α).Reads text a text :=
  fun place => ⟨place, rfl⟩

theorem bind (first : r.Reads text a middle) (second : (f a).Reads middle b rest) :
    (r >>= f).Reads text b rest := by
  intro place
  obtain ⟨between, one⟩ := first place
  obtain ⟨after, other⟩ := second between
  refine ⟨after, ?_⟩
  simp only [Bind.bind, Reader.bind, one, other]

theorem map (reads : r.Reads text a rest) (g : α → β) :
    (r >>= fun a => Pure.pure (g a)).Reads text (g a) rest :=
  reads.bind (pure _ _)

theorem settled (reads : r.Reads text a rest) : (settled r).Reads text a rest := by
  intro place
  obtain ⟨after, ran⟩ := reads place
  exact ⟨after, by simp only [Reader.settled, ran]⟩

theorem closedBy {finish : Reader Unit} {move : Cursor → Cursor} (inner : r.Reads text a middle)
    (closed : finish.Reads middle () rest) : (closedBy r finish move).Reads text a rest := by
  intro place
  obtain ⟨between, one⟩ := inner place
  obtain ⟨after, other⟩ := closed between
  exact ⟨after, by simp only [Reader.closedBy, one, other]⟩

/-- What is read from a whole text is its value. -/
theorem readAll {text : String} (reads : r.Reads text.toList a []) : r.readAll text = .ok a := by
  obtain ⟨after, ran⟩ := reads .start
  simp only [Reader.readAll, Cursor.start, ran, Cursor.passSpace, Cursor.pass, Cursor.passIn]

end Reads

theorem Takes.map {tree : Tree} (takes : r.Takes tree a) (g : α → β) :
    (r >>= fun a => Pure.pure (g a)).Takes tree (g a) :=
  fun rest ends => (takes rest ends).map g

theorem peek_reads : peek.Reads text text.head? text := fun place => ⟨place, rfl⟩

theorem skip_reads : skip.Reads (c :: rest) () rest := fun _ => ⟨_, rfl⟩

theorem peekToken_reads (solid : Cursor.isSpace c = false) :
    peekToken.Reads (c :: rest) (some c) (c :: rest) := by
  intro place
  refine ⟨place, ?_⟩
  simp only [peekToken, passSpace_solid place rest solid, List.head?_cons]

theorem letters_reads (word : List Char) : (letters word).Reads (word ++ rest) () rest := by
  induction word with
  | nil => exact .pure () rest
  | cons letter word ih =>
      refine .bind peek_reads ?_
      simp only [List.cons_append, List.head?_cons, ↓reduceIte]
      exact .bind skip_reads ih

theorem passIn_append {p : Char → Bool} (place : Place) {front : List Char}
    (all : ∀ c ∈ front, p c = true) (stop : ∀ c ∈ rest.head?, p c = false) :
    ∃ after, Cursor.passIn p place (front ++ rest) = ⟨after, rest⟩ := by
  induction front generalizing place with
  | nil =>
      cases rest with
      | nil => exact ⟨place, rfl⟩
      | cons c rest => exact ⟨place, by simp [Cursor.passIn, stop c rfl]⟩
  | cons c front ih =>
      rw [List.forall_mem_cons] at all
      obtain ⟨after, passed⟩ := ih (place.after c) all.2
      exact ⟨after, by simp [Cursor.passIn, all.1, passed]⟩

theorem takeWhile_reads {p : Char → Bool} {front : List Char} (all : ∀ c ∈ front, p c = true)
    (stop : ∀ c ∈ rest.head?, p c = false) : (takeWhile p).Reads (front ++ rest) front rest := by
  intro place
  obtain ⟨after, passed⟩ := passIn_append place all stop
  have none : rest.takeWhile p = [] := by
    cases rest with
    | nil => rfl
    | cons c rest => simp [stop c rfl]
  refine ⟨after, ?_⟩
  simp only [Reader.takeWhile, Cursor.pass, passed, List.takeWhile_append_of_pos all, none,
    List.append_nil]

end Reader

end CatalogueEditor.Json
