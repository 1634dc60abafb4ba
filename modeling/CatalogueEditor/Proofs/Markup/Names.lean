import CatalogueEditor.Proofs.Markup.Attributes

/-!
The characters of names. Names are made of the letters and numbers of Unicode, where XML 1.0 lists
ranges of code points. All of these letters and numbers may stand in a document. But a few of them
are in none of the ranges of XML, so that a name here is one of XML exactly if it has none of those.
-/

namespace CatalogueEditor.Markup

open Text

variable {c : Char} {ranges wider : List (Nat × Nat)} {first last : Nat}

/-! Ranges of code points. -/

/-- The code points from the first to the last lie in ranges, which are passed through once. -/
def covered : List (Nat × Nat) → Nat → Nat → Bool
  | [], first, last => last.blt first
  | range :: others, first, last =>
      bif range.1.ble first && first.ble range.2 then covered others (range.2 + 1) last
      else covered others first last

def allCovered (wider ranges : List (Nat × Nat)) : Bool :=
  ranges.all fun range => covered wider range.1 range.2

def allApart (ranges others : List (Nat × Nat)) : Bool :=
  ranges.all fun range => others.all fun other => range.2 < other.1 || other.2 < range.1

theorem inRanges_iff :
    inRanges ranges c = true ↔ ∃ range ∈ ranges, range.1 ≤ c.toNat ∧ c.toNat ≤ range.2 := by
  simp [inRanges]

theorem inRanges_cons {range : Nat × Nat} :
    inRanges (range :: ranges) c = true ↔
      (range.1 ≤ c.toNat ∧ c.toNat ≤ range.2) ∨ inRanges ranges c = true := by
  simp [inRanges]

theorem inRanges_nil : inRanges [] c = false := rfl

theorem inRanges_append :
    inRanges (ranges ++ wider) c = (inRanges ranges c || inRanges wider c) :=
  List.any_append

theorem covered_sound (within : covered wider first last = true) (low : first ≤ c.toNat)
    (high : c.toNat ≤ last) : inRanges wider c = true := by
  induction wider generalizing first with
  | nil =>
      have none : last < first := Nat.blt_eq.mp within
      omega
  | cons range others ih =>
      rw [inRanges_cons]
      cases inside : range.1.ble first && first.ble range.2 with
      | true =>
          rw [covered, inside, cond_true] at within
          rw [Bool.and_eq_true, Nat.ble_eq, Nat.ble_eq] at inside
          by_cases here : c.toNat ≤ range.2
          · exact .inl ⟨by omega, here⟩
          · exact .inr (ih within (by omega))
      | false =>
          rw [covered, inside, cond_false] at within
          exact .inr (ih within low)

theorem inRanges_of_allCovered (within : allCovered wider ranges = true)
    (member : inRanges ranges c = true) : inRanges wider c = true := by
  rcases inRanges_iff.mp member with ⟨range, listed, low, high⟩
  exact covered_sound (List.all_eq_true.mp within range listed) low high

theorem not_inRanges_of_apart (disjoint : allApart ranges wider = true)
    (member : inRanges ranges c = true) : ¬ inRanges wider c = true := by
  intro other
  rcases inRanges_iff.mp member with ⟨range, listed, low, high⟩
  rcases inRanges_iff.mp other with ⟨range', listed', low', high'⟩
  have ranged := List.all_eq_true.mp (List.all_eq_true.mp disjoint range listed) range' listed'
  simp only [Bool.or_eq_true, decide_eq_true_eq] at ranged
  omega

/-! The characters of names as ranges. -/

def startRanges : List (Nat × Nat) :=
  alphabeticRanges ++ [(0x5F, 0x5F), (0x3A, 0x3A)]

def goOnRanges : List (Nat × Nat) :=
  alphabeticRanges ++ (numericRanges ++ [(0x2D, 0x2D), (0x2E, 0x2E), (0x5F, 0x5F), (0x3A, 0x3A)])

theorem inRanges_single (d : Char) (code : Nat) (same : d.toNat = code) :
    inRanges ((code, code) :: ranges) c = (c == d || inRanges ranges c) := by
  have iff : inRanges ((code, code) :: ranges) c = true ↔
      (c == d || inRanges ranges c) = true := by
    rw [inRanges_cons, Bool.or_eq_true, beq_iff_eq, ← Char.toNat_inj, same]
    exact or_congr_left ⟨fun both => Nat.le_antisymm both.2 both.1, fun eq => ⟨eq.ge, eq.le⟩⟩
  exact Bool.eq_iff_iff.mpr iff

theorem startsName_eq : startsName c = inRanges startRanges c := by
  rw [startRanges, inRanges_append, inRanges_single '_' 0x5F rfl,
    inRanges_single ':' 0x3A rfl, inRanges_nil, Bool.or_false, ← Bool.or_assoc]
  rfl

theorem continuesName_eq : continuesName c = inRanges goOnRanges c := by
  rw [goOnRanges, inRanges_append, inRanges_append, inRanges_single '-' 0x2D rfl,
    inRanges_single '.' 0x2E rfl, inRanges_single '_' 0x5F rfl,
    inRanges_single ':' 0x3A rfl, inRanges_nil, Bool.or_false]
  simp only [← Bool.or_assoc]
  rfl

theorem allowed_of_all {text : List Char} (all : text.all isAllowed = true) :
    ∀ c ∈ text, XmlChar c :=
  fun c member => isAllowed_iff.mp (List.all_eq_true.mp all c member)

theorem enclosed_allowed {opening body closing : List Char} (before : opening.all isAllowed = true)
    (inside : ∀ c ∈ body, XmlChar c) (after : closing.all isAllowed = true) :
    ∀ c ∈ opening ++ body ++ closing, XmlChar c := by
  rw [List.forall_mem_append, List.forall_mem_append]
  exact ⟨⟨allowed_of_all before, inside⟩, allowed_of_all after⟩

theorem names_allowed :
    allCovered [(0x20, 0xD7FF), (0xE000, 0xFFFD), (0x10000, 0x10FFFF)] goOnRanges = true := by
  decide +kernel

theorem name_allowed {name : List Char} (named : isName name = true) : ∀ c ∈ name, XmlChar c := by
  intro c member
  have ranged := continuesName_of_mem named member
  rw [continuesName_eq] at ranged
  have allowed := inRanges_of_allCovered names_allowed ranged
  simp only [inRanges_cons, inRanges_nil, Bool.false_eq_true, or_false] at allowed
  exact .inr (.inr (.inr allowed))

/-! The names of XML. -/

/-- `NameStartChar` of XML 1.0 (fifth edition). -/
def xmlStartRanges : List (Nat × Nat) := [
    (0x3A, 0x3A), (0x41, 0x5A), (0x5F, 0x5F), (0x61, 0x7A), (0xC0, 0xD6), (0xD8, 0xF6),
    (0xF8, 0x2FF), (0x370, 0x37D), (0x37F, 0x1FFF), (0x200C, 0x200D), (0x2070, 0x218F),
    (0x2C00, 0x2FEF), (0x3001, 0xD7FF), (0xF900, 0xFDCF), (0xFDF0, 0xFFFD), (0x10000, 0xEFFFF)]

/-- `NameChar` of XML 1.0 (fifth edition). -/
def xmlNameRanges : List (Nat × Nat) :=
  [(0x2D, 0x2E), (0x30, 0x39), (0xB7, 0xB7), (0x300, 0x36F), (0x203F, 0x2040)] ++ xmlStartRanges

/-- `Name` of XML 1.0 (fifth edition). -/
def isXmlName : List Char → Bool
  | [] => false
  | c :: rest => inRanges xmlStartRanges c && rest.all (inRanges xmlNameRanges ·)

/-- The letters that start no name of XML: the ordinal indicators, the micro sign, combining letters
and the letters in circles. -/
def foreignStartRanges : List (Nat × Nat) := [
    (0xAA, 0xAA), (0xB5, 0xB5), (0xBA, 0xBA), (0x345, 0x345), (0x363, 0x36F), (0x24B6, 0x24E9)]

/-- The letters and numbers that stand in no name of XML: the ordinal indicators, the micro sign,
raised digits, fractions, and letters and numbers in circles, in brackets or with a stop. -/
def foreignRanges : List (Nat × Nat) := [
    (0xAA, 0xAA), (0xB2, 0xB3), (0xB5, 0xB5), (0xB9, 0xBA), (0xBC, 0xBE), (0x2460, 0x249B),
    (0x24B6, 0x24FF), (0x2776, 0x2793)]

/-- The name has a character that has no place in a name of XML. -/
def isForeign : List Char → Bool
  | [] => false
  | c :: rest => inRanges foreignStartRanges c || rest.any (inRanges foreignRanges ·)

theorem starts_covered : allCovered (foreignStartRanges ++ xmlStartRanges) startRanges = true := by
  decide +kernel

theorem goOn_covered : allCovered (foreignRanges ++ xmlNameRanges) goOnRanges = true := by
  decide +kernel

theorem foreign_apart :
    allApart foreignStartRanges xmlStartRanges = true ∧ allApart foreignRanges xmlNameRanges = true := by
  decide

theorem xmlStart_iff (starts : startsName c = true) :
    inRanges xmlStartRanges c = true ↔ ¬ inRanges foreignStartRanges c = true := by
  constructor
  · intro ranged foreign
    exact not_inRanges_of_apart foreign_apart.1 foreign ranged
  · intro common
    rw [startsName_eq] at starts
    have either := inRanges_of_allCovered starts_covered starts
    rw [inRanges_append, Bool.or_eq_true] at either
    exact either.resolve_left common

theorem xmlGoOn_iff (goesOn : continuesName c = true) :
    inRanges xmlNameRanges c = true ↔ ¬ inRanges foreignRanges c = true := by
  constructor
  · intro ranged foreign
    exact not_inRanges_of_apart foreign_apart.2 foreign ranged
  · intro common
    rw [continuesName_eq] at goesOn
    have either := inRanges_of_allCovered goOn_covered goesOn
    rw [inRanges_append, Bool.or_eq_true] at either
    exact either.resolve_left common

theorem isXmlName_iff {name : List Char} (named : isName name = true) :
    isXmlName name = true ↔ isForeign name = false := by
  cases name with
  | nil => cases named
  | cons first rest =>
      rw [isName, Bool.and_eq_true, List.all_eq_true] at named
      have later : (∀ c ∈ rest, inRanges xmlNameRanges c = true) ↔
          ∀ c ∈ rest, ¬ inRanges foreignRanges c = true :=
        forall₂_congr fun c member => xmlGoOn_iff (named.2 c member)
      rw [isXmlName, Bool.and_eq_true, List.all_eq_true, xmlStart_iff named.1, later, isForeign,
        Bool.or_eq_false_iff, List.any_eq_false, Bool.not_eq_true]

end CatalogueEditor.Markup
