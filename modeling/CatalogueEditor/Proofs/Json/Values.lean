import CatalogueEditor.Proofs.Json.Scalars

/-!
Readers of typed values take the text of the trees that these values are written as: of names, of lists,
of records written as objects, and of tagged records, whose fields are kept as trees first.
-/

namespace CatalogueEditor.Json

variable {α β σ τ : Type} {c : Char} {more rest : List Char} {tree : Tree}

theorem render_nat {n : Nat} (fits : n < UInt64.size) : (Tree.nat n).render = Nat.toDigits 10 n := by
  have value : (UInt64.ofNat n).toNat = n := UInt64.toNat_ofNat_of_lt' fits
  simp [Tree.nat, Tree.render, Number.render, value]

theorem isDigit_solid {c : Char} (digit : isDigit c = true) : Cursor.isSpace c = false := by
  have apart : ∀ other, isDigit other = false → c ≠ other := by
    rintro other plain rfl
    cases digit.symm.trans plain
  simp [Cursor.isSpace, apart ' ' rfl, apart '\n' rfl, apart '\t' rfl, apart '\r' rfl]

namespace Reader

variable {r : Reader α} {a : α}

theorem string_takes (s : String) : Reader.string.Takes (.string s) s := by
  intro rest ends
  apply Reads.settled
  rw [Tree.render, renderString_append]
  refine .bind (peekToken_reads rfl) ?_
  rw [if_pos rfl, ← renderString_append]
  exact quoted_reads s

theorem variant_takes {known : List (String × α)} {name : String} (found : known.lookup name = some a) :
    (variant known).Takes (.string name) a := by
  intro rest ends
  apply Reads.settled
  rw [Tree.render, renderString_append]
  refine .bind (peekToken_reads rfl) ?_
  rw [if_pos rfl, ← renderString_append]
  refine .bind (quoted_reads name) ?_
  simp only [variant?, found, checked]
  exact .pure a rest

theorem enumeration_takes {known : List (String × α)} {name : String} (found : known.lookup name = some a) :
    (enumeration known).Takes (.string name) a := by
  intro rest ends
  have takes := variant_takes found rest ends
  rw [Tree.render, renderString_append] at takes ⊢
  exact .bind (peekToken_reads rfl) takes

/-- A number starts with a digit, and a reader that looks for it finds it. -/
theorem number_reads {n : Nat} (fits : n < UInt64.size) :
    ∃ c more, (Tree.nat n).render = c :: more ∧ isDigit c = true ∧
      ∀ rest, Ends rest → (number c).Reads (c :: more ++ rest) (.natural (UInt64.ofNat n)) rest := by
  rw [render_nat fits]
  obtain ⟨c, more, written⟩ := List.exists_cons_of_ne_nil (Nat.toDigits_ne_nil (n := n) (b := 10))
  have digit : isDigit c = true := isDigit_of_mem (written ▸ List.mem_cons_self)
  refine ⟨c, more, written, digit, fun rest ends => ?_⟩
  have plain : c ≠ '-' := by
    rintro rfl
    cases digit
  rw [number, if_neg plain, ← written]
  exact unsigned_reads fits ends

theorem naturalBelow_takes {n : Nat} (limit : Nat) (expected : String) (below : n < limit)
    (fits : limit ≤ UInt64.size) : (naturalBelow limit expected).Takes (.nat n) n := by
  have small : n < UInt64.size := Nat.lt_of_lt_of_le below fits
  have value : (UInt64.ofNat n).toNat = n := UInt64.toNat_ofNat_of_lt' small
  intro rest ends
  obtain ⟨c, more, written, digit, reads⟩ := number_reads small
  rw [written]
  apply Reads.settled
  refine .bind (peekToken_reads (isDigit_solid digit)) ?_
  simp only [startsNumber, digit, Bool.or_true, ↓reduceIte]
  refine .bind (reads rest ends) ?_
  simp only [Number.below, value, below, ↓reduceIte, checked]
  exact .pure n rest

theorem optional_none : (optional r).Takes .null none := by
  intro rest ends
  refine .bind (peekToken_reads (c := 'n') rfl) ?_
  refine .bind skip_reads (.bind (letters_reads _) (.pure none rest))

theorem optional_some {n : Nat} (fits : n < UInt64.size) (takes : r.Takes (.nat n) a) :
    (optional r).Takes (.nat n) (some a) := by
  intro rest ends
  have reads := takes rest ends
  obtain ⟨c, more, written, digit, _⟩ := number_reads fits
  rw [written] at reads ⊢
  have plain : some c ≠ some 'n' := by
    rintro ⟨⟩
    cases digit
  refine .bind (peekToken_reads (isDigit_solid digit)) ?_
  rw [if_neg plain]
  exact .map reads some

end Reader

/-! Lists. -/
section Lists

/-- Neither white space nor the end of a list starts like the text of the tree. -/
def Tree.IsItem (tree : Tree) : Prop :=
  ∃ c more, tree.render = c :: more ∧ Cursor.isSpace c = false ∧ c ≠ ']'

theorem ends_renderItems {trees : List Tree} : Ends (renderItems trees ++ rest) := by
  cases trees with
  | nil => exact .inr (.inl rfl)
  | cons tree trees => exact .inl rfl

variable {item : Reader α} {trees : List Tree} {values : List α}

theorem itemsFrom_end (done : List α) (place : Place) :
    itemsFrom item done ⟨place, ']' :: rest⟩ = .ok (done.reverse, ⟨place, ']' :: rest⟩) := by
  have here := passSpace_solid (c := ']') place rest rfl
  -- The loop matches on what its readers give, so each branch but one contradicts what is known of them.
  rw [itemsFrom]
  split
  · rename_i marked
    cases (congrArg Cursor.rest here).symm.trans marked
  · rename_i marked
    cases (congrArg Cursor.rest here).symm.trans marked
    rw [if_pos rfl, here]

theorem itemsFrom_item (done : List α) {place : Place} {a : α} {next : Cursor}
    (solid : Cursor.isSpace c = false) (goes : c ≠ ']')
    (read : item.run ⟨place.after ',', c :: rest⟩ = .ok (a, next)) :
    itemsFrom item done ⟨place, ',' :: c :: rest⟩ = itemsFrom item (a :: done) next := by
  have here := passSpace_solid (c := ',') place (c :: rest) rfl
  have behind : Cursor.afterComma place (c :: rest) = ⟨place.after ',', c :: rest⟩ :=
    passSpace_solid _ _ solid
  rw [itemsFrom]
  split
  · rename_i marked
    cases (congrArg Cursor.rest here).symm.trans marked
  · rename_i marked
    cases (congrArg Cursor.rest here).symm.trans marked
    simp only [here, behind, List.head?_cons, Char.reduceEq, ↓reduceIte]
    split
    · rename_i failed
      rw [here, behind] at failed
      cases read.symm.trans failed
    · rename_i found
      rw [here, behind] at found
      cases read.symm.trans found
      rfl

theorem Reader.moreItems_reads (taken : List.Forall₂ item.Takes trees values)
    (items : ∀ tree ∈ trees, tree.IsItem) (done : List α) :
    (Reader.moreItems item done).Reads (renderItems trees ++ rest) (done.reverse ++ values)
      (']' :: rest) := by
  intro place
  simp only [Reader.moreItems]
  induction taken generalizing done place with
  | nil => exact ⟨place, by rw [renderItems, List.singleton_append, itemsFrom_end, List.append_nil]⟩
  | cons takes others ih =>
      rename_i tree a trees values
      rw [List.forall_mem_cons] at items
      obtain ⟨⟨c, more, written, solid, goes⟩, items⟩ := items
      obtain ⟨between, one⟩ := takes (renderItems trees ++ rest) ends_renderItems (place.after ',')
      obtain ⟨after, read⟩ := ih items (a :: done) between
      refine ⟨after, ?_⟩
      rw [written] at one
      rw [renderItems, written, List.cons_append, List.append_assoc, List.cons_append]
      rw [List.cons_append] at one
      rw [itemsFrom_item done solid goes one, read, List.reverse_cons, List.append_assoc,
        List.singleton_append]

theorem Reader.listEnd_reads : Reader.listEnd.Reads (']' :: rest) () rest :=
  .bind (peekToken_reads rfl) skip_reads

theorem Reader.items_nil : (Reader.items item).Reads (']' :: rest) [] (']' :: rest) :=
  .bind (.bind (.bind (peekToken_reads rfl) (.pure false _)) (.pure none _)) (.pure [] _)

theorem Reader.items_cons {a : α} (isItem : tree.IsItem) (takes : item.Takes tree a)
    (taken : List.Forall₂ item.Takes trees values) (items : ∀ tree ∈ trees, tree.IsItem) :
    (Reader.items item).Reads (tree.render ++ (renderItems trees ++ rest)) (a :: values) (']' :: rest) := by
  have first := takes (renderItems trees ++ rest) ends_renderItems
  obtain ⟨c, more, written, solid, goes⟩ := isItem
  rw [written] at first ⊢
  have found : (Reader.hasItem true).Reads (c :: more ++ (renderItems trees ++ rest)) true
      (c :: more ++ (renderItems trees ++ rest)) := by
    refine .bind (peekToken_reads solid) ?_
    simp only [↓reduceIte]
    exact .pure true _
  exact .bind (.bind found (.map first some)) (Reader.moreItems_reads taken items [a])

theorem Reader.list_takes (taken : List.Forall₂ item.Takes trees values)
    (items : ∀ tree ∈ trees, tree.IsItem) : (Reader.list item).Takes (.list trees) values := by
  intro rest ends
  apply Reads.settled
  cases taken with
  | nil =>
      refine .bind (peekToken_reads (c := '[') rfl) ?_
      exact .closedBy (.bind skip_reads items_nil) listEnd_reads
  | cons takes taken =>
      rw [List.forall_mem_cons] at items
      rw [Tree.render, List.cons_append, List.append_assoc]
      refine .bind (peekToken_reads rfl) ?_
      exact .closedBy (.bind skip_reads (items_cons items.1 takes taken items.2)) listEnd_reads

end Lists

/-! Objects. -/
section Objects

/-- The reader of a member takes its value behind the colon. -/
def Reader.TakesMember (r : Reader α) (tree : Tree) (a : α) : Prop :=
  ∀ rest, Ends rest → r.Reads (':' :: (tree.render ++ rest)) a rest

/-- Members change a state one after another. -/
inductive Folds (member : σ → String → Reader σ) : σ → List (String × Tree) → σ → Prop
  | done (state : σ) : Folds member state [] state
  | step {state final : σ} {name : String} {tree : Tree} {members : List (String × Tree)} (next : σ)
      (takes : (member state name).TakesMember tree next) (others : Folds member next members final) :
      Folds member state ((name, tree) :: members) final

variable {member : σ → String → Reader σ} {state next final : σ} {members : List (String × Tree)}

theorem ends_renderMembers : Ends (renderMembers members ++ rest) := by
  cases members with
  | nil => exact .inr (.inr rfl)
  | cons => exact .inl rfl

theorem Reader.colon_reads : Reader.colon.Reads (':' :: rest) () rest :=
  .bind (peekToken_reads rfl) skip_reads

section Member
variable {r : Reader α} {a : α}

theorem Reader.Takes.behindColon (takes : r.Takes tree a) : (Reader.colon >>= fun _ => r).TakesMember tree a :=
  fun rest ends => .bind colon_reads (takes rest ends)

theorem Reader.TakesMember.map (takes : r.TakesMember tree a) (f : α → β) :
    (r >>= fun a => Pure.pure (f a)).TakesMember tree (f a) :=
  fun rest ends => (takes rest ends).map f

theorem Reader.once_takes (name : String) (takes : r.Takes tree a) :
    (Reader.once name false r).TakesMember tree a :=
  takes.behindColon

end Member

theorem membersFrom_end {first : Bool} {text : List Char}
    (ends : (Reader.hasMember first).Reads text false ('}' :: rest)) (place : Place) :
    ∃ after, membersFrom member first state ⟨place, text⟩ = .ok (state, ⟨after, '}' :: rest⟩) := by
  obtain ⟨after, stops⟩ := ends place
  refine ⟨after, ?_⟩
  rw [membersFrom]
  split
  · rename_i failed
    cases stops.symm.trans failed
  · rename_i found
    cases stops.symm.trans found
    rfl
  · rename_i found
    cases stops.symm.trans found

theorem membersFrom_step {first : Bool} {name : String} {text others : List Char}
    (goes : (Reader.hasMember first).Reads text true
      (renderString name ++ ':' :: (tree.render ++ others)))
    (takes : (member state name).Reads (':' :: (tree.render ++ others)) next others) (place : Place) :
    ∃ after, membersFrom member first state ⟨place, text⟩ =
      membersFrom member false next ⟨after, others⟩ := by
  obtain ⟨quote, more⟩ := goes place
  rw [renderString_append] at more
  obtain ⟨behind, named⟩ := Reader.stringBody_reads name (':' :: (tree.render ++ others))
    (quote.after '"')
  obtain ⟨after, read⟩ := takes behind
  refine ⟨after, ?_⟩
  rw [membersFrom]
  split
  · rename_i failed
    cases more.symm.trans failed
  · rename_i found
    cases more.symm.trans found
  · rename_i found
    cases more.symm.trans found
    split
    · rename_i failed
      cases named.symm.trans failed
    · rename_i found
      cases named.symm.trans found
      split
      · rename_i failed
        cases read.symm.trans failed
      · rename_i found
        cases read.symm.trans found
        rfl

theorem Reader.hasMember_first (name : String) (rest : List Char) :
    (Reader.hasMember true).Reads (renderString name ++ rest) true (renderString name ++ rest) := by
  rw [renderString_append]
  exact .bind (peekToken_reads rfl) (.pure true _)

theorem Reader.hasMember_next (name : String) (rest : List Char) :
    (Reader.hasMember false).Reads (',' :: (renderString name ++ rest)) true (renderString name ++ rest) := by
  rw [renderString_append]
  exact .bind (peekToken_reads rfl) (.bind skip_reads (.bind (peekToken_reads rfl) (.pure true _)))

theorem Reader.hasMember_end (first : Bool) :
    (Reader.hasMember first).Reads ('}' :: rest) false ('}' :: rest) :=
  .bind (peekToken_reads rfl) (.pure false _)

theorem membersFrom_reads (folds : Folds member state members final) (rest : List Char) (place : Place) :
    ∃ after, membersFrom member false state ⟨place, renderMembers members ++ rest⟩ =
      .ok (final, ⟨after, '}' :: rest⟩) := by
  -- Behind the first member each one is read up to the comma or the bracket that follows it.
  induction folds generalizing place with
  | done state => exact membersFrom_end (Reader.hasMember_end false) place
  | @step state final name tree members next takes others ih =>
      have goes := Reader.hasMember_next name (':' :: (tree.render ++ (renderMembers members ++ rest)))
      obtain ⟨between, one⟩ := membersFrom_step goes (takes _ ends_renderMembers) place
      obtain ⟨after, read⟩ := ih between
      refine ⟨after, ?_⟩
      rw [← read, ← one, renderMembers]
      simp only [List.cons_append, List.append_assoc]

theorem Reader.objectEnd_reads : Reader.objectEnd.Reads ('}' :: rest) () rest :=
  .bind (peekToken_reads rfl) skip_reads

/-- What is made of the members of an object is made of the object. -/
theorem Reader.inObject_takes {finish : σ → Reader α} {a : α} (final : σ)
    (folds : Folds member state members final) (finishes : ∀ text, (finish final).Reads text a text) :
    (Reader.inObject (Reader.members member state >>= finish)).Takes (.object members) a := by
  intro rest ends
  have opened : ∃ text, (Tree.object members).render ++ rest = '{' :: text ∧
      (Reader.members member state).Reads text final ('}' :: rest) := by
    cases folds with
    | done => exact ⟨'}' :: rest, rfl, membersFrom_end (Reader.hasMember_end true)⟩
    | @step _ _ name tree members next takes others =>
        refine ⟨renderString name ++ ':' :: (tree.render ++ (renderMembers members ++ rest)), ?_,
          fun place => ?_⟩
        · simp only [Tree.render, List.cons_append, List.append_assoc]
        · have goes := Reader.hasMember_first name (':' :: (tree.render ++ (renderMembers members ++ rest)))
          obtain ⟨between, one⟩ := membersFrom_step goes (takes _ ends_renderMembers) place
          obtain ⟨after, read⟩ := membersFrom_reads others rest between
          exact ⟨after, one.trans read⟩
  obtain ⟨text, written, read⟩ := opened
  rw [written]
  exact .closedBy (.bind skip_reads (.bind read (finishes _))) objectEnd_reads

theorem Reader.record_takes {fromList fromObject : Reader α} {a : α} (expected : String)
    (takes : (Reader.inObject fromObject).Takes (.object members) a) :
    (Reader.record expected fromList fromObject).Takes (.object members) a := by
  intro rest ends
  have reads := takes rest ends
  have opened : ∃ text, (Tree.object members).render ++ rest = '{' :: text := by
    cases members <;> exact ⟨_, rfl⟩
  obtain ⟨text, written⟩ := opened
  rw [written] at reads ⊢
  exact .settled (.bind (peekToken_reads rfl) reads)

end Objects

/-! Tagged records. -/
section Tagged

/-- A tree that is neither a list nor an object, nor a number that is no natural one. -/
inductive Tree.Plain : Tree → Prop
  | null : Plain .null
  | text (s : String) : Plain (.string s)
  | nat {n : Nat} (fits : n < UInt64.size) : Plain (.nat n)

/-- Plain trees are kept as they are. -/
theorem Reader.tree_takes (plain : tree.Plain) (depth : Nat) :
    (Reader.tree (depth + 1)).Takes tree tree := by
  intro rest ends
  rw [Reader.tree]
  cases plain with
  | null =>
      refine .bind (peekToken_reads (c := 'n') rfl) ?_
      exact .bind skip_reads (.bind (letters_reads "ull".toList) (.pure Tree.null rest))
  | text s =>
      rw [Tree.render, renderString_append]
      refine .bind (peekToken_reads rfl) ?_
      rw [← renderString_append]
      exact .map (quoted_reads s) _
  | nat fits =>
      obtain ⟨c, more, written, digit, reads⟩ := number_reads fits
      rw [written]
      refine .bind (peekToken_reads (isDigit_solid digit)) ?_
      have word : c ≠ 'n' ∧ c ≠ 't' ∧ c ≠ 'f' := by
        refine ⟨?_, ?_, ?_⟩ <;> (rintro rfl; cases digit)
      simp only [word, startsNumber, digit, Bool.or_true, ↓reduceIte]
      exact .map (reads rest ends) _

variable {tag name expected : String} {known : List (String × τ)} {kind : τ}
  {members : List (String × Tree)}

/-- The members beside the tag are kept in their order. -/
theorem folds_kept
    {member : Option τ × List (String × Tree) → String → Reader (Option τ × List (String × Tree))}
    (keeps : ∀ read name, name ≠ tag → member (some kind, read) name = do
      Reader.colon
      return (some kind, read ++ [(name, ← Reader.tree depthLimit)]))
    (plain : ∀ field ∈ members, field.1 ≠ tag ∧ field.2.Plain) (read : List (String × Tree)) :
    Folds member (some kind, read) members (some kind, read ++ members) := by
  induction members generalizing read with
  | nil =>
      rw [List.append_nil]
      exact .done _
  | cons field members ih =>
      obtain ⟨name, tree⟩ := field
      rw [List.forall_mem_cons] at plain
      obtain ⟨⟨other, plain⟩, later⟩ := plain
      have others := ih later (read ++ [(name, tree)])
      rw [List.append_assoc, List.singleton_append] at others
      refine .step _ ?_ others
      rw [keeps read name other]
      exact ((Reader.tree_takes plain 126).map fun tree => (some kind, read ++ [(name, tree)])).behindColon

theorem Reader.tagged_takes (found : known.lookup name = some kind)
    (plain : ∀ field ∈ members, field.1 ≠ tag ∧ field.2.Plain) :
    (Reader.tagged tag known expected).Takes (.object ((tag, .string name) :: members))
      (kind, .object members) := by
  intro rest ends
  have opened : peekToken.Reads ((Tree.object ((tag, .string name) :: members)).render ++ rest) (some '{')
      ((Tree.object ((tag, .string name) :: members)).render ++ rest) := peekToken_reads rfl
  refine .settled (.bind opened ?_)
  apply inObject_takes (some kind, members) ?_ ?_ rest ends
  · refine .step (some kind, []) ?_ (folds_kept (fun _ _ other => if_neg other) plain [])
    simp only [↓reduceIte]
    exact (once_takes tag (variant_takes found)).map fun kind => (some kind, [])
  · exact fun text => .pure _ text

end Tagged

end CatalogueEditor.Json
