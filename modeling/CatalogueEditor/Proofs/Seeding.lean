import Mathlib.Data.List.Induction
import CatalogueEditor.Proofs.CheckedContent
import CatalogueEditor.Proofs.InsertionOrder

/-!
Seeding a view with the messages of a page. A message is shown if its key is not blank and no message before
it has the same key; the others are skipped. So messages can be seeded in parts, the later ones by pushing
rows, and the messages of a seeded view seed the same view.
-/

namespace CatalogueEditor

namespace View

/-- A message as it is shown when the page is opened. -/
def freshRow (message : String × String) : Entry :=
  ⟨message.1, message.2, .viewing⟩

/-- The key of the message is not blank, and none of those before it. -/
def IsFirst (before : List (String × String)) (message : String × String) : Prop :=
  Text.trim message.1 ≠ "" ∧ ∀ earlier ∈ before, earlier.1 ≠ message.1

instance (before : List (String × String)) (message : String × String) :
    Decidable (IsFirst before message) :=
  inferInstanceAs (Decidable (_ ∧ _))

/-- The messages that are the first of their keys, in order. -/
def firsts (messages : List (String × String)) : List (String × String) :=
  (messages.zipIdx.filter fun placed => IsFirst (messages.take placed.2) placed.1).map Prod.fst

/-- Pushes of rows for messages, those with blank keys apart. -/
def pushes (messages : List (String × String)) : List Update :=
  ((messages.filter fun message => Text.trim message.1 ≠ "").map freshRow).map .push

/-! The first messages of their keys. What comes later has no say in them. -/

variable {view : View} {messages more : List (String × String)} {key : String}

theorem firsts_concat (message : String × String) : firsts (messages ++ [message]) =
    firsts messages ++ if IsFirst messages message then [message] else [] := by
  have earlier : messages.zipIdx.filter
        (fun placed => IsFirst ((messages ++ [message]).take placed.2) placed.1) =
      messages.zipIdx.filter fun placed => IsFirst (messages.take placed.2) placed.1 := by
    refine List.filter_congr fun placed member => ?_
    have inside : placed.2 ≤ messages.length := (List.snd_lt_of_mem_zipIdx member).le
    rw [List.take_append_of_le_length inside]
  rw [firsts, List.zipIdx_append, List.filter_append, List.map_append, earlier, Nat.zero_add,
    List.zipIdx_singleton, List.filter_singleton, List.take_left]
  by_cases first : IsFirst messages message <;> simp [firsts, first]

theorem mem_keys_firsts (named : Text.trim key ≠ "") :
    key ∈ (firsts messages).map Prod.fst ↔ key ∈ messages.map Prod.fst := by
  induction messages using List.reverseRecOn with
  | nil => rfl
  | append_singleton messages message ih =>
      rw [firsts_concat, List.map_append, List.map_append, List.mem_append, List.mem_append, ih]
      by_cases first : IsFirst messages message
      · rw [if_pos first]
      · rw [if_neg first]
        simp only [List.map_nil, List.not_mem_nil, or_false, List.map_cons, List.mem_singleton,
          iff_self_or]
        -- A key that is not blank and not the first of its kind was there before.
        rintro rfl
        by_contra absent
        exact first ⟨named, fun earlier member same =>
          absent (List.mem_map.mpr ⟨earlier, member, same⟩)⟩

theorem firsts_eq_self (distinct : (messages.map Prod.fst).Nodup)
    (named : ∀ key ∈ messages.map Prod.fst, Text.trim key ≠ "") : firsts messages = messages := by
  induction messages using List.reverseRecOn with
  | nil => rfl
  | append_singleton messages message ih =>
      rw [List.map_append] at distinct named
      obtain ⟨before, _, apart⟩ := List.nodup_append.mp distinct
      have first : IsFirst messages message :=
        ⟨named _ (by simp), fun earlier member =>
          apart _ (List.mem_map_of_mem member) _ (List.mem_singleton_self _)⟩
      rw [firsts_concat, if_pos first,
        ih before fun key member => named key (List.mem_append_left _ member)]

/-! Seeding goes on from any view. -/

theorem seedFrom_cons (message : String × String) : (view.seedFrom (message :: more)).1 =
    ((view.seedOne message).1.seedFrom more).1 := by
  rw [seedFrom]

theorem seedFrom_append : (view.seedFrom (messages ++ more)).1 =
    ((view.seedFrom messages).1.seedFrom more).1 := by
  induction messages generalizing view with
  | nil => rfl
  | cons message rest ih => rw [List.cons_append, seedFrom_cons, seedFrom_cons, ih]

theorem seedOne_eq (message : String × String) : (view.seedOne message).1 =
    if Text.trim message.1 ≠ "" ∧ message.1 ∉ view.keys then ⟨view.entries ++ [freshRow message]⟩
    else view := by
  rw [seedOne, push]
  by_cases blank : Text.trim message.1 = ""
  · simp [blank]
  · by_cases present : message.1 ∈ view.keys
    · simp [blank, present, contains_iff]
    · simp [blank, present, contains_iff, freshRow]

theorem ofMessages_concat (message : String × String) :
    ofMessages (messages ++ [message]) = ((ofMessages messages).seedOne message).1 := by
  rw [ofMessages, ofMessages, seedFrom_append, seedFrom_cons, seedFrom]

theorem ofMessages_eq (messages : List (String × String)) :
    ofMessages messages = ⟨(firsts messages).map freshRow⟩ := by
  induction messages using List.reverseRecOn with
  | nil => rfl
  | append_singleton messages message ih =>
      have keys : (⟨(firsts messages).map freshRow⟩ : View).keys = (firsts messages).map Prod.fst := by
        simp [View.keys, freshRow, Function.comp_def]
      have shown : (Text.trim message.1 ≠ "" ∧ message.1 ∉ (firsts messages).map Prod.fst) ↔
          IsFirst messages message := by
        refine and_congr_right fun named => ?_
        rw [mem_keys_firsts named, List.mem_map, not_exists]
        exact forall_congr' fun earlier => not_and
      rw [ofMessages_concat, ih, seedOne_eq, keys, firsts_concat]
      simp only [shown]
      split <;> simp

/-! Seeding is pushing. -/

theorem update_push (entry : Entry) : (view.update (.push entry)).1 =
      (if entry.key ∈ view.keys then view else ⟨view.entries ++ [entry]⟩) ∧
    ((view.update (.push entry)).2 = .done ∨
      (view.update (.push entry)).2 = .refused (.duplicateKey entry.key)) := by
  by_cases present : entry.key ∈ view.keys <;> simp [update, push, contains_iff, present]

theorem seedFrom_eq_updates (messages : List (String × String)) :
    (view.seedFrom messages).1 = (view.updates (pushes messages)).1 := by
  induction messages generalizing view with
  | nil => rfl
  | cons message rest ih =>
      rw [seedFrom_cons, ih, seedOne_eq]
      by_cases blank : Text.trim message.1 = ""
      · simp [pushes, blank]
      · have pushed : pushes (message :: rest) = .push (freshRow message) :: pushes rest := by
          simp [pushes, blank]
        rw [pushed, updates]
        dsimp only
        rw [(update_push _).1]
        by_cases present : message.1 ∈ view.keys <;> simp [blank, present, freshRow]

theorem answers_of_pushes (entries : List Entry) :
    ∀ answer ∈ (view.updates (entries.map .push)).2,
      answer = .done ∨ ∃ entry ∈ entries, answer = .refused (.duplicateKey entry.key) := by
  induction entries generalizing view with
  | nil => exact List.forall_mem_nil _
  | cons entry rest ih =>
      refine List.forall_mem_cons.mpr ⟨?_, fun answer later => ?_⟩
      · exact (update_push entry).2.imp_right fun refused => ⟨entry, List.mem_cons_self, refused⟩
      · exact (ih answer later).imp_right fun ⟨other, member, refused⟩ =>
          ⟨other, List.mem_cons_of_mem entry member, refused⟩

/-- Nothing but a repeated key is refused. -/
theorem pushes_answers (messages : List (String × String)) :
    ∀ answer ∈ (view.updates (pushes messages)).2,
      answer = .done ∨ ∃ message ∈ messages, answer = .refused (.duplicateKey message.1) := by
  intro answer answered
  refine (answers_of_pushes _ answer answered).imp_right ?_
  rintro ⟨entry, pushed, refused⟩
  obtain ⟨message, kept, rfl⟩ := List.mem_map.mp pushed
  exact ⟨message, List.mem_of_mem_filter kept, refused⟩

theorem messages_ofMessages (messages : List (String × String)) :
    (ofMessages messages).messages = firsts messages := by
  simp [ofMessages_eq, View.messages, freshRow, Function.comp_def]

theorem firsts_firsts (messages : List (String × String)) : firsts (firsts messages) = firsts messages := by
  have keys : (firsts messages).map Prod.fst = (ofMessages messages).keys := by
    rw [keys_eq_messages, messages_ofMessages]
  apply firsts_eq_self
  · exact keys ▸ (ofMessages_fresh messages).1
  · exact keys ▸ ofMessages_named messages

end View

/-- A page is seeded with the messages that are the first of their keys, as they are and all of them viewed.
Messages behind others are pushed, and those that are shown seed what is shown. -/
theorem seeds_first_of_each_key (messages : List (String × String)) :
    (View.ofMessages messages).entries = (View.firsts messages).map View.freshRow ∧
    (∀ more,
      let pushed := (View.ofMessages messages).updates (View.pushes more)
      View.ofMessages (messages ++ more) = pushed.1 ∧
      ∀ answer ∈ pushed.2,
        answer = .done ∨ ∃ message ∈ more, answer = .refused (.duplicateKey message.1)) ∧
    View.ofMessages (View.ofMessages messages).messages = View.ofMessages messages := by
  refine ⟨congrArg View.entries (View.ofMessages_eq messages), fun more => ⟨?_, ?_⟩, ?_⟩
  · rw [View.ofMessages, View.seedFrom_append]
    exact View.seedFrom_eq_updates more
  · exact View.pushes_answers more
  · rw [View.messages_ofMessages, View.ofMessages_eq, View.firsts_firsts, View.ofMessages_eq]

example : View.ofMessages [("a", "1"), ("\u3000", "blank"), (" b", "2"), ("a", "again")] =
    ⟨[⟨"a", "1", .viewing⟩, ⟨" b", "2", .viewing⟩]⟩ := by
  decide +kernel

end CatalogueEditor
