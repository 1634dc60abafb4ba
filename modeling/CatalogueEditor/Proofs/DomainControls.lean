import CatalogueEditor.Proofs.FormRoundTrip
import CatalogueEditor.Url.Host

/-!
Hosts and the characters that count for nothing at the ends of a URL: spaces and controls. At the end
of a domain such a character stays where it is however the domain is decoded, folded, composed and
encoded, and then makes it no domain.
-/

namespace CatalogueEditor

namespace Text

/-! Tables. -/

/-- The rows of a table, whose text is given by its characters. -/
def rowsOf (text : List Char) : List Row :=
  ((text.map fun c => if c = '\n' then ' ' else c).splitOn ' ').filterMap fun word =>
    if word = [] then none else some (Row.ofWord word)

theorem all_readTable {p : Row → Bool} {table : String} {text : List Char}
    (same : table = String.ofList text) (rows : (rowsOf text).all p = true) :
    (readTable table).all p = true := by
  rwa [same, readTable, String.toList_ofList]

set_option maxRecDepth 100000 in
theorem compositions_shown : compositions.all (fun row => row.values.all (32 < ·)) = true := by
  unfold compositions
  apply all_readTable
  case same => with_reducible exact rfl
  case rows => decide +kernel

set_option maxRecDepth 100000 in
theorem combiningClasses_shown : combiningClasses.all (32 < ·.first) = true := by
  unfold combiningClasses
  apply all_readTable
  case same => with_reducible exact rfl
  case rows => decide +kernel

/-! What happens to a space or a control at the end of text. -/

variable {c : Char} (control : c ≤ ' ')
include control

theorem toNat_control : c.toNat ≤ 32 := control

/-- What holds for each of them. -/
theorem control_cases {p : Char → Prop} (each : ∀ n < 33, p (Char.ofNat n)) : p c :=
  Char.ofNat_toNat c ▸ each c.toNat (Nat.lt_succ_of_le control)

theorem encodeChar_control : String.utf8EncodeChar c = [UInt8.ofNat c.toNat] :=
  control_cases control (p := fun c => String.utf8EncodeChar c = [UInt8.ofNat c.toNat]) (by decide)

theorem combiningClass_control : combiningClass c = 0 := by
  have above := toNat_control control
  have shown := List.all_eq_true.mp combiningClasses_shown
  have absent : row? combiningClasses c.toNat = none := by
    refine List.find?_eq_none.mpr fun row member => ?_
    have first := of_decide_eq_true (shown row member)
    simp only [Row.covers, Bool.and_eq_true, decide_eq_true_eq]
    omega
  rw [combiningClass, absent]
  rfl

theorem composePair_control (letter : Char) : composePair letter c = none := by
  have above := toNat_control control
  have shown := List.all_eq_true.mp compositions_shown
  have single : joinSyllable letter.toNat c.toNat = none := by
    rw [joinSyllable, if_neg (by omega), if_neg (by omega)]
  have absent : compositions.find? (·.values == [letter.toNat, c.toNat]) = none := by
    refine List.find?_eq_none.mpr fun row member same => ?_
    have values := List.all_eq_true.mp (shown row member)
    rw [eq_of_beq same] at values
    have code := of_decide_eq_true (values c.toNat (by simp))
    omega
  rw [composePair, single, absent]
  rfl

theorem placeMark_control (before : List Char) : placeMark c before = c :: before := by
  cases before with
  | nil => rfl
  | cons d before =>
      rw [placeMark, if_neg]
      exact fun both => both.1 (combiningClass_control control)

theorem Composing.take_control (state : Composing) : (state.take c).finish = state.finish ++ [c] := by
  have apart : (state.letter.bind fun letter =>
      if state.reaches c then composePair letter c else none) = none := by
    cases state.letter with
    | none => rfl
    | some letter => simp [composePair_control control]
  simp only [Composing.take, apart, combiningClass_control control, if_true]
  simp [Composing.finish]

theorem compose_control (text : List Char) : compose (text ++ [c]) = compose text ++ [c] := by
  have above := toNat_control control
  by_cases ascii : text.all (·.toNat < 128)
  · have both : (text ++ [c]).all (·.toNat < 128) := by
      simp only [List.all_append, ascii, List.all_cons, List.all_nil, Bool.and_true, Bool.true_and,
        decide_eq_true_eq]
      omega
    rw [compose, if_pos both, compose, if_pos ascii]
  · have neither : ¬ (text ++ [c]).all (·.toNat < 128) := by
      rw [List.all_append, Bool.and_eq_true]
      exact fun both => ascii both.1
    have whole : decompose c = [c] := if_pos (by omega)
    rw [compose, if_neg neither, compose, if_neg ascii]
    simp only [orderMarks, List.flatMap_append, List.flatMap_singleton, whole, List.foldl_append,
      List.foldl_cons, List.foldl_nil, placeMark_control control, List.reverse_cons]
    exact Composing.take_control control _

omit control in
theorem Lead.ofByte?_low {b : UInt8} {lead : Lead} (leads : Lead.ofByte? b = some lead) :
    0x80 ≤ lead.low := by
  unfold Lead.ofByte? at leads
  repeat' split at leads
  all_goals cases leads
  all_goals
    dsimp only
    decide

omit control in
/-- A byte that starts a character is left unread behind others. -/
theorem readMore_concat {low high b : UInt8} (above : 0x80 ≤ low) (short : b < 0x80)
    (more bits : Nat) (bytes : List UInt8) :
    readMore low high more bits (bytes ++ [b]) =
      ((readMore low high more bits bytes).1, (readMore low high more bits bytes).2 ++ [b]) := by
  induction more generalizing low high bits bytes with
  | zero => rfl
  | succ more ih =>
      cases bytes with
      | nil =>
          have outside : ¬ (low ≤ b ∧ b ≤ high) := fun both =>
            absurd (UInt8.le_trans above both.1) (UInt8.not_le.mpr short)
          simp only [List.nil_append, readMore, if_neg outside]
      | cons d rest =>
          simp only [List.cons_append, readMore]
          split
          · exact ih (by decide) _ rest
          · rfl

theorem ofUtf8_control (bytes : List UInt8) :
    ofUtf8 (bytes ++ [UInt8.ofNat c.toNat]) = ofUtf8 bytes ++ [c] := by
  have short : UInt8.ofNat c.toNat < 0x80 :=
    control_cases control (p := fun c => UInt8.ofNat c.toNat < 0x80) (by decide)
  have same : Char.ofNat (UInt8.ofNat c.toNat).toNat = c :=
    control_cases control (p := fun c => Char.ofNat (UInt8.ofNat c.toNat).toNat = c) (by decide)
  fun_induction ofUtf8 bytes with
  | case1 => rw [List.nil_append, ofUtf8, if_pos short, same, ofUtf8]; rfl
  | case2 b rest ascii ih => rw [List.cons_append, ofUtf8, if_pos ascii, ih]; rfl
  | case3 b rest long missed ih => rw [List.cons_append, ofUtf8, if_neg long, missed, ih]; rfl
  | case4 b rest long lead leads read ih =>
      have further : readMore lead.low lead.high lead.more lead.bits
          (rest ++ [UInt8.ofNat c.toNat]) = _ :=
        readMore_concat (Lead.ofByte?_low leads) short lead.more lead.bits rest
      rw [List.cons_append, ofUtf8, if_neg long, leads]
      simp only [further]
      rw [ih]
      rfl

theorem digitValue_control (base : Nat) : digitValue base c = none := by
  have none := control_cases control (p := fun c => ¬ ('0' ≤ c ∧ c ≤ '9') ∧ ¬ ('a' ≤ c ∧ c ≤ 'z') ∧
    ¬ ('A' ≤ c ∧ c ≤ 'Z')) (by decide)
  rw [digitValue, if_neg none.1, if_neg none.2.1, if_neg none.2.2]
  rfl

end Text

namespace Percent

open Text

theorem decode_control {c : Char} (control : c ≤ ' ') (text : List Char) :
    decode (text ++ [c]) = decode text ++ [UInt8.ofNat c.toNat] := by
  have alone : decode [c] = [UInt8.ofNat c.toNat] := by
    rw [decode, encodeChar_control control, decode]
    · rfl
    · intro high low rest _ same
      cases same
  fun_induction decode text with
  | case1 high low rest b digits ih =>
      simp only [List.cons_append]
      rw [decode, digits]
      simp only [ih]
  | case2 high low rest digits ih =>
      simp only [List.cons_append] at ih ⊢
      rw [decode, digits]
      simp only [ih, List.append_assoc]
  | case3 d rest other ih =>
      have single : decode (d :: (rest ++ [c])) =
          String.utf8EncodeChar d ++ decode (rest ++ [c]) := by
        by_cases percent : d = '%'
        · subst percent
          cases rest with
          | nil =>
              rw [List.nil_append, decode]
              intro high low rest _ same
              cases same
          | cons high tail =>
              cases tail with
              | nil =>
                  have unread : byte? high c = none := by
                    simp [byte?, digitValue_control control]
                  rw [List.singleton_append, decode, unread]
              | cons low rest => exact absurd rfl (other high low rest rfl)
        · exact decode_cons percent _
      rw [List.cons_append, single, ih, List.append_assoc]
  | case4 => exact alone

end Percent

namespace Punycode

open Text

variable {c : Char} (control : c ≤ ' ')
include control

theorem digitOf_control : digitOf c = none := by
  rw [digitOf, digitValue_control control]
  rfl

/-- No number ends in such a character, so that it is left behind the number that is read. -/
theorem readNumber_control {bias position weight value n : Nat} {text rest : List Char}
    (read : readNumber bias position weight value (text ++ [c]) = some (n, rest)) :
    ∃ left, rest = left ++ [c] ∧ left.length < text.length := by
  induction text generalizing position weight value with
  | nil => simp [readNumber, digitOf_control control] at read
  | cons d tail ih =>
      rw [List.cons_append, readNumber] at read
      split at read
      · cases read
      · split at read
        · cases read
          exact ⟨tail, rfl, Nat.lt_succ_self _⟩
        · obtain ⟨left, same, shorter⟩ := ih read
          exact ⟨left, same, Nat.lt_succ_of_lt shorter⟩

theorem readNumbers_control (code place bias : Nat) (found text : List Char) :
    readNumbers code place bias found (text ++ [c]) = none := by
  induction size : text.length using Nat.strongRecOn generalizing code place bias found text with
  | _ size ih =>
      rw [readNumbers, if_neg (by simp)]
      split
      · rfl
      · rename_i delta rest read
        obtain ⟨left, rfl, shorter⟩ := readNumber_control control read
        dsimp only
        split
        · rfl
        · exact ih left.length (size ▸ shorter) _ _ _ _ left rfl

theorem decode_control (text : List Char) : decode (text ++ [c]) = none := by
  have stays : (c != '-') = true :=
    control_cases control (p := fun c => (c != '-') = true) (by decide)
  have numbers : ((text ++ [c]).reverse.takeWhile (· != '-')).reverse =
      (text.reverse.takeWhile (· != '-')).reverse ++ [c] := by
    rw [List.reverse_append, List.reverse_singleton, List.singleton_append, List.takeWhile_cons,
      if_pos stays, List.reverse_cons]
  rw [decode, numbers]
  simp only [readNumbers_control control]
  split
  · rfl
  · split <;> rfl

omit control in
/-- What is written stays. -/
theorem Writing.writeCodes_prefix (text : List Char) (asciiSize next : Nat) (state : Writing)
    (codes : List Nat) : state.text <+: (writeCodes text asciiSize next state codes).text := by
  have passes : ∀ (code : Nat) (cs : List Char) (state : Writing),
      state.text <+: (cs.foldl (pass asciiSize code) state).text := by
    intro code cs
    induction cs with
    | nil => exact fun state => List.prefix_refl _
    | cons d rest ih =>
        intro state
        refine List.IsPrefix.trans ?_ (ih _)
        unfold pass
        split
        · exact List.prefix_refl _
        · split
          · exact List.prefix_append _ _
          · exact List.prefix_refl _
  induction codes generalizing next state with
  | nil => exact List.prefix_refl _
  | cons code rest ih =>
      refine List.IsPrefix.trans ?_ (ih (code + 1) _)
      exact passes code text { state with delta := state.delta + (code - next) * (state.size + 1) }

theorem mem_encode {text : List Char} (member : c ∈ text) : c ∈ encode text := by
  have ascii : c ∈ text.filter (·.toNat < firstCode) := by
    have above := toNat_control control
    refine List.mem_filter.mpr ⟨member, decide_eq_true ?_⟩
    unfold firstCode
    omega
  refine (Writing.writeCodes_prefix ..).subset ?_
  dsimp only
  rw [if_neg (List.ne_nil_of_mem ascii)]
  exact List.mem_append_left _ ascii

end Punycode

namespace Domain

open Text

variable {c : Char} (control : c ≤ ' ')
include control

theorem mapChar_control : mapChar c = some [c] :=
  control_cases control (p := fun c => mapChar c = some [c]) (by decide)

theorem splitOn_control (text : List Char) :
    ∃ front last, (text ++ [c]).splitOn '.' = front ++ [last ++ [c]] := by
  have stays : (c == '.') = false :=
    control_cases control (p := fun c => (c == '.') = false) (by decide)
  induction text with
  | nil => exact ⟨[], [], List.splitOnP_eq_singleton (by simpa using stays)⟩
  | cons d rest ih =>
      obtain ⟨front, last, parts⟩ := ih
      rw [List.cons_append, List.splitOn_cons_eq_if_modifyHead, parts]
      split
      · exact ⟨[] :: front, last, rfl⟩
      · cases front with
        | nil => exact ⟨[], d :: last, rfl⟩
        | cons first front => exact ⟨(d :: first) :: front, last, rfl⟩

omit control in
theorem mapM_concat {α β : Type} {f : α → Option β} {front : List α} {last : α} {results : List β}
    (all : (front ++ [last]).mapM f = some results) :
    ∃ results' result, results = results' ++ [result] ∧ f last = some result := by
  simp only [List.mapM_append, List.mapM_cons, List.mapM_nil, Option.bind_eq_bind,
    Option.pure_def, Option.bind_eq_some_iff, Option.some.injEq] at all
  obtain ⟨results', _, _, ⟨result, found, _, rfl, rfl⟩, rfl⟩ := all
  exact ⟨results', result, rfl, found⟩

theorem decodeLabel_control {label decoded : List Char}
    (decodes : decodeLabel (label ++ [c]) = some decoded) : decoded = label ++ [c] := by
  have apart : ¬ c ∈ encodedMark :=
    control_cases control (p := fun c => ¬ c ∈ encodedMark) (by decide)
  unfold decodeLabel at decodes
  split at decodes
  · rename_i marked
    have inside := List.prefix_concat_iff.mp (List.isPrefixOf_iff_prefix.mp marked)
    obtain ⟨rest, rfl⟩ := inside.resolve_left fun same => apart (same ▸ by simp)
    rw [List.append_assoc, List.drop_left, Punycode.decode_control control] at decodes
    cases decodes
  · exact (Option.some.inj decodes).symm

theorem mem_encodeLabel {label : List Char} (member : c ∈ label) : c ∈ encodeLabel label := by
  unfold encodeLabel
  split
  · exact member
  · exact List.mem_append_right _ (Punycode.mem_encode control member)

omit control in
theorem mem_join {labels : List (List Char)} {label : List Char} (member : label ∈ labels)
    (inside : c ∈ label) : c ∈ join labels := by
  fun_induction join labels with
  | case1 => cases member
  | case2 only => exact List.mem_singleton.mp member ▸ inside
  | case3 first rest _ ih =>
      rcases List.mem_cons.mp member with rfl | later
      · exact List.mem_append_left _ inside
      · exact List.mem_append_right _ (List.mem_cons_of_mem _ (ih later))

theorem ofText?_control (text : List Char) : ofText? (text ++ [c]) = none := by
  by_contra found
  obtain ⟨domain, found⟩ := Option.ne_none_iff_exists'.mp found
  simp only [ofText?, Option.bind_eq_bind, Option.bind_eq_some_iff] at found
  obtain ⟨mapped, maps, labels, decodes, written⟩ := found
  obtain ⟨front, last, rfl, map⟩ := mapM_concat maps
  obtain rfl : [c] = last := Option.some.inj ((mapChar_control control).symm.trans map)
  obtain ⟨labels', label, parts⟩ := splitOn_control control (compose front.flatten)
  rw [List.flatten_append, List.flatten_singleton, compose_control control, parts] at decodes
  obtain ⟨firsts, decoded, rfl, decode⟩ := mapM_concat decodes
  obtain rfl := decodeLabel_control control decode
  have inside : c ∈ join ((firsts ++ [label ++ [c]]).map encodeLabel) :=
    mem_join (List.mem_map_of_mem (List.mem_append_right _ (List.mem_singleton_self _)))
      (mem_encodeLabel control (List.mem_append_right _ (List.mem_singleton_self c)))
  have forbidden : isForbidden c = true := by
    rw [isForbidden, decide_eq_true control]
    rfl
  have held := List.any_eq_true.mpr ⟨c, inside, forbidden⟩
  rw [held] at written
  simp at written

end Domain

namespace Host

open Text

/-- No host of the web ends in a space or a control. -/
theorem read_control {c : Char} (control : c ≤ ' ') (text : List Char) (host : Host) :
    read (text ++ [c]) ≠ .ok host := by
  intro found
  have once : ∃ host, readOnce (text ++ [c]) = .ok host := by
    unfold read at found
    split at found
    · cases found
    · rename_i host readsOnce
      exact ⟨host, readsOnce⟩
  obtain ⟨host, once⟩ := once
  unfold readOnce at once
  split at once
  · rename_i rest bracket
    unfold readBracketed at once
    split at once
    · rename_i shut _
      have last := congrArg List.getLast? bracket
      rw [List.getLast?_concat, List.getLast?_cons, shut] at last
      exact control_cases control (p := (· ≠ ']')) (by decide) (Option.some.inj last)
    · cases once
  · rw [readDomain, Percent.decode_control control, ofUtf8_control control,
      Domain.ofText?_control control] at once
    cases once

end Host

end CatalogueEditor
