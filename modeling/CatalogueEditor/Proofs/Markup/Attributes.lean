import Mathlib.Data.List.TakeWhile
import CatalogueEditor.Proofs.Markup.Cuts
import CatalogueEditor.Proofs.Markup.References

/-!
The attributes of a tag as they are written. Reading them from left to right finds the attributes
that the text is made of, if their names and values are sound and their names are distinct.
-/

namespace CatalogueEditor.Markup

open Text

/-! Names have none of the characters that markup is made of. -/

def delimiters : List Char :=
  ['<', '>', '/', '=', '\'', '"', '!', '?', '&', ' ', '\t', '\r', '\n']

theorem delimiters_end_names : delimiters.all (!continuesName ·) = true := by
  decide +kernel

/-- Every character of a name may go on a name, its first one too. -/
theorem continuesName_of_mem {name : List Char} {c : Char} (named : isName name = true)
    (member : c ∈ name) : continuesName c = true := by
  cases name with
  | nil => cases member
  | cons first rest =>
      rw [isName, Bool.and_eq_true] at named
      rcases List.mem_cons.mp member with rfl | later
      · have starts : startsName c = true := named.1
        simp only [startsName, continuesName, Bool.or_eq_true] at starts ⊢
        tauto
      · exact List.all_eq_true.mp named.2 c later

theorem not_mem_name {name : List Char} (named : isName name = true) {c : Char}
    (delimits : c ∈ delimiters) : c ∉ name := by
  have ends : continuesName c = false := by
    simpa using List.all_eq_true.mp delimiters_end_names c delimits
  intro member
  cases (continuesName_of_mem named member).symm.trans ends

theorem isSpace_delimits {c : Char} (space : isSpace c = true) : c ∈ delimiters := by
  simp only [isSpace, Bool.or_eq_true, beq_iff_eq] at space
  rcases space with ((rfl | rfl) | rfl) | rfl <;> decide

theorem endsKey_delimits {c : Char} (ends : endsKey c = true) : c ∈ delimiters := by
  rw [endsKey, Bool.or_eq_true, beq_iff_eq] at ends
  rcases ends with rfl | space
  · decide
  · exact isSpace_delimits space

theorem name_plain {name : List Char} (named : isName name = true) :
    name.all isPlain = true := by
  rw [List.all_eq_true]
  intro c member
  by_contra marked
  have delimits : c ∈ delimiters := by
    simp only [isPlain, Bool.and_eq_true, bne_iff_ne, not_and_or, not_not] at marked
    rcases marked with (rfl | rfl) | rfl <;> decide
  exact not_mem_name named delimits member

theorem name_goesOn {name : List Char} (named : isName name = true) :
    name.all (!endsKey ·) = true := by
  rw [List.all_eq_true]
  intro c member
  cases ends : endsKey c with
  | false => rfl
  | true => exact absurd member (not_mem_name named (endsKey_delimits ends))

theorem name_unspaced {name : List Char} (named : isName name = true) :
    name.all (!isSpace ·) = true := by
  rw [List.all_eq_true]
  intro c member
  cases space : isSpace c with
  | false => rfl
  | true => exact absurd member (not_mem_name named (isSpace_delimits space))

theorem spaces_plain {spaces : List Char} (blank : spaces.all isSpace = true) :
    spaces.all isPlain = true := by
  rw [List.all_eq_true] at blank ⊢
  intro c member
  have space := blank c member
  simp only [isSpace, Bool.or_eq_true, beq_iff_eq] at space
  rcases space with ((rfl | rfl) | rfl) | rfl <;> decide

/-! What is written. -/

/-- An attribute as it is written at the start of a text, and what follows it. -/
inductive Written : Attribute → List Char → List Char → Prop
  | intro (key gap gap' value after : List Char) (quote : Char)
      (blank : gap.all isSpace = true) (blank' : gap'.all isSpace = true)
      (quotes : quote = '"' ∨ quote = '\'') (closed : quote ∉ value) :
      Written ⟨key, value⟩
        (key ++ (gap ++ '=' :: (gap' ++ quote :: (value ++ quote :: after)))) after

theorem readValue_ok_iff {size : Nat} {text value after : List Char} :
    readValue size text = .ok (value, after) ↔
      ∃ gap quote, gap.all isSpace = true ∧ (quote = '"' ∨ quote = '\'') ∧ quote ∉ value ∧
        text = gap ++ quote :: (value ++ quote :: after) := by
  constructor
  · intro read
    unfold readValue at read
    split at read
    · cases read
    · rename_i quote rest starts
      obtain ⟨whole, blank⟩ := run_of_dropWhile starts
      split at read
      · rename_i quotes
        split at read
        · rename_i found cut
          cases read
          obtain ⟨rfl, closed⟩ := cutAt_single_iff.mp cut
          exact ⟨_, quote, blank, quotes, closed, whole.symm⟩
        · cases read
      · cases read
  · rintro ⟨gap, quote, blank, quotes, closed, rfl⟩
    have unspaced : isSpace quote = false := by
      rcases quotes with rfl | rfl <;> rfl
    have starts : (gap ++ quote :: (value ++ quote :: after)).dropWhile isSpace =
        quote :: (value ++ quote :: after) :=
      dropWhile_run blank fun c first => by cases first; exact unspaced
    have cut : cutAt [quote] (value ++ quote :: after) = some (value, after) :=
      cutAt_single_iff.mpr ⟨rfl, closed⟩
    simp only [readValue, starts, if_pos quotes, cut]

variable {size place : Nat} {seen : SeenKeys} {first : Char} {rest after : List Char}
  {found : Attribute}

theorem unseen_iff {key : List Char} :
    seen.find? (·.1 == key) = none ↔ key ∉ seen.map Prod.fst := by
  simp only [List.find?_eq_none, beq_iff_eq, List.mem_map, not_exists, not_and]

theorem written_of_readAttribute
    (read : readAttribute size seen first rest = .ok (found, place, after)) :
    Written found (first :: rest) after ∧ found.key ∉ seen.map Prod.fst := by
  simp only [readAttribute] at read
  split at read
  · rename_i text equals
    split at read
    · cases read
    · rename_i unseen
      split at read
      · cases read
      · rename_i value tail reads
        cases read
        obtain ⟨gap', quote, blank', quotes, closed, rfl⟩ := readValue_ok_iff.mp reads
        obtain ⟨spaced, blank⟩ := run_of_dropWhile equals
        have whole := List.takeWhile_append_dropWhile (p := (!endsKey ·)) (l := rest)
        rw [← spaced] at whole
        refine ⟨?_, unseen_iff.mp unseen⟩
        have written := Written.intro (first :: rest.takeWhile (!endsKey ·)) _ gap' value after
          quote blank blank' quotes closed
        rwa [List.cons_append, whole] at written
  · cases read

theorem Written.starts {text : List Char} (written : Written found text after)
    (named : isName found.key = true) :
    ∃ first rest, text = first :: rest ∧ isSpace first = false := by
  obtain ⟨key, gap, gap', value, _, quote, _, _, _, _⟩ := written
  cases key with
  | nil => cases named
  | cons first others =>
      refine ⟨first, _, List.cons_append, ?_⟩
      have unspaced := List.all_eq_true.mp (name_unspaced named) first List.mem_cons_self
      simpa using unspaced

theorem readAttribute_of_written {text : List Char} (written : Written found text after)
    (named : isName found.key = true) (unseen : found.key ∉ seen.map Prod.fst)
    (starts : text = first :: rest) :
    readAttribute size seen first rest =
      .ok (found, size - utf8Length (first :: rest), after) := by
  obtain ⟨key, gap, gap', value, _, quote, blank, blank', quotes, closed⟩ := written
  cases key with
  | nil => cases named
  | cons c others =>
      rw [List.cons_append, List.cons.injEq] at starts
      obtain ⟨rfl, rfl⟩ := starts
      have goesOn : others.all (!endsKey ·) = true := by
        have all := name_goesOn named
        rw [List.all_cons, Bool.and_eq_true] at all
        exact all.2
      -- The key ends at the equals sign or at the white space before it.
      have stops : ∀ d,
          (gap ++ '=' :: (gap' ++ quote :: (value ++ quote :: after))).head? = some d →
            (!endsKey d) = false := by
        intro d starts
        cases gap with
        | nil =>
            cases starts
            rfl
        | cons space more =>
            cases starts
            rw [List.all_cons, Bool.and_eq_true] at blank
            simp [endsKey, blank.1]
      have equals : (gap ++ '=' :: (gap' ++ quote :: (value ++ quote :: after))).dropWhile isSpace =
          '=' :: (gap' ++ quote :: (value ++ quote :: after)) :=
        dropWhile_run blank fun d starts => by cases starts; rfl
      have read : readValue size (gap' ++ quote :: (value ++ quote :: after)) =
          .ok (value, after) :=
        readValue_ok_iff.mpr ⟨gap', quote, blank', quotes, closed, rfl⟩
      simp only [readAttribute, dropWhile_run goesOn stops, takeWhile_run goesOn stops, equals,
        unseen_iff.mpr unseen, read]

/-! What an attribute must satisfy. -/

/-- The attribute binds a prefix: its name is `xmlns:` and the prefix. -/
def Attribute.Binds (read : Attribute) : Prop :=
  "xmlns:".toList <+: read.key

instance (read : Attribute) : Decidable read.Binds :=
  inferInstanceAs (Decidable ("xmlns:".toList <+: read.key))

/-- The prefix that an attribute declares, if it declares one. -/
def Attribute.declares (read : Attribute) : List (List Char) :=
  if read.Binds then [read.key.drop 6] else []

/-- The prefix that the name of an attribute uses, if it uses one. -/
def Attribute.uses (read : Attribute) : List (List Char) :=
  if read.Binds then [] else (namespacePart read.key).toList

structure Attribute.Sound (read : Attribute) : Prop where
  named : isName read.key = true
  noBracket : '<' ∉ read.value
  resolves : ∃ resolved, Resolves read.value resolved ∧ ∀ c ∈ resolved, XmlChar c
  bound : read.Binds → read.value ≠ []

theorem namespaces_ok_iff {read : Attribute} {value : List Char} {found : Namespaces} :
    read.namespaces value = .ok found ↔
      (read.Binds → value ≠ []) ∧ found = ⟨read.declares, read.uses⟩ := by
  unfold Attribute.namespaces Attribute.declares Attribute.uses
  by_cases binds : read.Binds
  · rw [if_pos (List.isPrefixOf_iff_prefix.mpr binds), if_pos binds, if_pos binds]
    by_cases empty : value = []
    · simp [empty, binds]
    · simp [empty, eq_comm]
  · rw [if_neg (mt List.isPrefixOf_iff_prefix.mp binds), if_neg binds, if_neg binds]
    simp [binds, eq_comm]

theorem check_ok_iff {read : Attribute} {found : Namespaces} :
    read.check = .ok found ↔ read.Sound ∧ found = ⟨read.declares, read.uses⟩ := by
  constructor
  · intro checked
    unfold Attribute.check at checked
    split at checked
    · cases checked
    rename_i named
    split at checked
    · cases checked
    rename_i noBracket
    split at checked
    · cases checked
    rename_i value resolved
    have resolves := resolveAllowed_ok_iff.mp resolved
    obtain ⟨bound, same⟩ := namespaces_ok_iff.mp checked
    refine ⟨⟨by simpa using named, noBracket, ⟨value, resolves⟩, fun binds => ?_⟩, same⟩
    exact mt resolves.1.nil_iff.mpr (bound binds)
  · rintro ⟨⟨named, noBracket, ⟨value, resolves⟩, bound⟩, same⟩
    have bound' := fun binds => mt resolves.1.nil_iff.mp (bound binds)
    simp [Attribute.check, named, noBracket, resolveAllowed_ok_iff.mpr resolves,
      namespaces_ok_iff.mpr ⟨bound', same⟩]

/-- A text that is made of attributes, with white space between them where there is any. -/
inductive Attributes : List Char → List Attribute → Prop
  | nil (spaces : List Char) (blank : spaces.all isSpace = true) : Attributes spaces []
  | cons (spaces text after : List Char) (first : Attribute) (others : List Attribute)
      (blank : spaces.all isSpace = true) (written : Written first text after)
      (later : Attributes after others) : Attributes (spaces ++ text) (first :: others)

def declared (attributes : List Attribute) : List (List Char) :=
  attributes.flatMap Attribute.declares

def used (attributes : List Attribute) : List (List Char) :=
  attributes.flatMap Attribute.uses

/-- The text behind the name of a tag as it must be. -/
structure Attached (text : List Char) (attributes : List Attribute) : Prop where
  made : Attributes text attributes
  sound : ∀ read ∈ attributes, read.Sound
  distinct : (attributes.map Attribute.key).Nodup

theorem attached_of_check {text : List Char} {namespaces : Namespaces}
    (checked : checkAttributes size seen text = .ok namespaces) :
    ∃ attributes, Attached text attributes ∧
      (∀ read ∈ attributes, read.key ∉ seen.map Prod.fst) ∧
      namespaces = ⟨declared attributes, used attributes⟩ := by
  fun_induction checkAttributes size seen text generalizing namespaces with
  | case1 seen text nothing =>
      cases checked
      have blank : text.all isSpace = true := by
        simpa [List.dropWhile_eq_nil_iff] using nothing
      exact ⟨[], ⟨.nil text blank, by simp, List.nodup_nil⟩, by simp, rfl⟩
  | case2 | case3 | case4 => cases checked
  | case5 seen text first rest starts found place after read shorter here sound later tail ih =>
      cases checked
      obtain ⟨others, attached, unseen, rfl⟩ := ih tail
      obtain ⟨written, fresh⟩ := written_of_readAttribute read
      obtain ⟨foundSound, rfl⟩ := check_ok_iff.mp sound
      obtain ⟨whole, blank⟩ := run_of_dropWhile starts
      have notAgain : ∀ read ∈ others, read.key ≠ found.key ∧ read.key ∉ seen.map Prod.fst := by
        intro read member
        have apart := unseen read member
        simp only [List.map_append, List.mem_append, not_or] at apart
        exact ⟨by simpa using apart.2, apart.1⟩
      refine ⟨found :: others, ⟨?_, ?_, ?_⟩, ?_, rfl⟩
      · rw [← whole]
        exact .cons _ _ _ _ _ blank written attached.made
      · exact List.forall_mem_cons.mpr ⟨foundSound, attached.sound⟩
      · refine List.nodup_cons.mpr ⟨fun again => ?_, attached.distinct⟩
        obtain ⟨read, member, same⟩ := List.mem_map.mp again
        exact (notAgain read member).1 same
      · exact List.forall_mem_cons.mpr ⟨fresh, fun read member => (notAgain read member).2⟩

theorem checkAttributes_nothing {text : List Char} (nothing : text.dropWhile isSpace = []) :
    checkAttributes size seen text = .ok ⟨[], []⟩ := by
  unfold checkAttributes
  split
  · rfl
  · rename_i starts
    cases nothing.symm.trans starts

theorem checkAttributes_found {text : List Char} {here later : Namespaces}
    (starts : text.dropWhile isSpace = first :: rest)
    (read : readAttribute size seen first rest = .ok (found, place, after))
    (sound : found.check = .ok here)
    (tail : checkAttributes size (seen ++ [(found.key, place)]) after = .ok later) :
    checkAttributes size seen text =
      .ok ⟨here.declared ++ later.declared, here.used ++ later.used⟩ := by
  rw [checkAttributes]
  split
  · rename_i nothing
    cases nothing.symm.trans starts
  · rename_i same
    cases starts.symm.trans same
    split
    · rename_i failed
      cases read.symm.trans failed
    · rename_i same
      cases read.symm.trans same
      simp only [sound, tail]

theorem check_of_attached {text : List Char} {attributes : List Attribute}
    (attached : Attached text attributes)
    (unseen : ∀ read ∈ attributes, read.key ∉ seen.map Prod.fst) :
    checkAttributes size seen text = .ok ⟨declared attributes, used attributes⟩ := by
  obtain ⟨made, sound, distinct⟩ := attached
  induction made generalizing seen with
  | nil spaces blank =>
      have nothing : spaces.dropWhile isSpace = [] := by
        simpa [List.dropWhile_eq_nil_iff] using blank
      exact checkAttributes_nothing nothing
  | cons spaces text after found others blank written later ih =>
      obtain ⟨foundSound, othersSound⟩ := List.forall_mem_cons.mp sound
      obtain ⟨fresh, othersUnseen⟩ := List.forall_mem_cons.mp unseen
      obtain ⟨apart, othersDistinct⟩ := List.nodup_cons.mp distinct
      obtain ⟨first, rest, rfl, unspaced⟩ := written.starts foundSound.named
      have starts : (spaces ++ first :: rest).dropWhile isSpace = first :: rest :=
        dropWhile_run blank fun c head => by cases head; exact unspaced
      refine checkAttributes_found starts
        (readAttribute_of_written written foundSound.named fresh rfl)
        (check_ok_iff.mpr ⟨foundSound, rfl⟩) (ih ?_ othersSound othersDistinct)
      intro other member
      simp only [List.map_append, List.mem_append, not_or]
      refine ⟨othersUnseen other member, ?_⟩
      have different : other.key ≠ found.key := by
        intro same
        exact apart (same ▸ List.mem_map_of_mem member)
      simpa using different

end CatalogueEditor.Markup
