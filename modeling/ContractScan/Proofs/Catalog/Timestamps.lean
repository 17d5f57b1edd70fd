import ContractScan.Proofs.Catalog.Shapes

/-! # Lines that depend on the time

The rule for timestamps has two patterns that treat case and surroundings differently. The text `block.timestamp` is
looked for in the lower-case form of the line, wherever it stands there. The word `now` has to stand alone, which is
told by the characters next to it, at either end of the line or inside; its letters have no spellings but the two of
ASCII.
-/

namespace ContractScan

open Text Pattern

/-- The word stands in the line, each letter in one of its two ASCII cases, and the characters next to it, if there are
any, are no word characters. -/
def HoldsWord (word : String) (line : List Char) : Prop :=
  ∃ before found after, line = before ++ found ++ after ∧ found.map Char.toLower = word.toList ∧
    (∀ c, before.getLast? = some c → isWord c.toNat = false) ∧ ∀ c, after.head? = some c → isWord c.toNat = false

/-- The letter is small, and its only spellings are the two of ASCII. -/
def isPlainLetter (d : Char) : Bool :=
  (Case.spellings (Case.lowerCode d.toNat)).all fun code => (Char.ofNat code).toLower == d

theorem sameLetter_iff_toLower {c d : Char} (plain : isPlainLetter d = true) : SameLetter c d ↔ c.toLower = d := by
  constructor
  · intro same
    have small := same.apply plain
    rwa [beq_iff_eq, Char.ofNat_toNat] at small
  · intro small
    subst small
    simp [SameLetter, Case.foldCode, Case.lowerCode_toLower]

theorem mem_spelled_plain {word : String} (plain : word.toList.all isPlainLetter = true) {text : List Char} :
    text ∈ spelled word ↔ text.map Char.toLower = word.toList := by
  have lowered : List.Forall₂ SameLetter text word.toList ↔
      List.Forall₂ (fun c d => c.toLower = d) text word.toList :=
    forall₂_congr_word fun d member _ _ => sameLetter_iff_toLower (List.all_eq_true.mp plain d member)
  refine lowered.trans ?_
  rw [← List.forall₂_map_left_iff, List.forall₂_eq_eq_eq]

namespace Builtin

/-- Only the two boundaries look at what stands around the word. -/
theorem starts_wholeWord {word : String} {before rest : List Char} (nonempty : word.toList ≠ [])
    (letters_word : (word.toList.all fun d => (Case.spellings (Case.lowerCode d.toNat)).all isWord) = true) :
    (Pattern.sequence (.anchor .boundary :: letters word ++ [.anchor .boundary])).Starts before rest ↔
      ∃ found after, rest = found ++ after ∧ found ∈ spelled word ∧
        (∀ c, before.getLast? = some c → isWord c.toNat = false) ∧
        ∀ c, after.head? = some c → isWord c.toNat = false := by
  rw [List.cons_append, starts_anchor_cons, (denotes_letters word).starts_append]
  constructor
  · intro ⟨left, found, after, split, spells, starts⟩
    obtain ⟨solid, words⟩ := isWord_of_mem_spelled nonempty letters_word spells
    rw [split, boundary_before solid words] at left
    rw [starts_anchor_cons, boundary_after solid words] at starts
    exact ⟨found, after, split, spells, left, starts.1⟩
  · intro ⟨found, after, split, spells, left, right⟩
    obtain ⟨solid, words⟩ := isWord_of_mem_spelled nonempty letters_word spells
    rw [split, boundary_before solid words]
    refine ⟨left, found, after, rfl, spells, ?_⟩
    rw [starts_anchor_cons, boundary_after solid words]
    exact ⟨right, [], after, rfl, rfl⟩

theorem search_now {line : List Char} :
    (Pattern.sequence (.anchor .boundary :: letters "now" ++ [.anchor .boundary])).search line = true ↔
      HoldsWord "now" line := by
  have plain {found : List Char} : found ∈ spelled "now" ↔ found.map Char.toLower = "now".toList :=
    mem_spelled_plain (by decide)
  have starts (before rest : List Char) :=
    @starts_wholeWord "now" before rest (by decide) (by decide)
  rw [search_iff (by decide)]
  simp only [starts, plain, HoldsWord]
  constructor
  · intro ⟨before, rest, split, found, after, rest_eq, holds⟩
    exact ⟨before, found, after, by simp [split, rest_eq], holds⟩
  · intro ⟨before, found, after, split, holds⟩
    exact ⟨before, found ++ after, by simp [split], found, after, rfl, holds⟩

end Builtin

/-- A line depends on the time when its lower-case form holds `block.timestamp`, or when it holds `now` in any mix of
ASCII cases with no letter, digit, other numeric or underscore next to it. -/
theorem timestamp_dependence_fires_on_time_words :
    Builtin.FiresOn "timestamp-dependence"
      {line | "block.timestamp".toList <:+: Case.lower line ∨ HoldsWord "now" line} := by
  refine Builtin.firesOn_of_lookup rfl fun line => ?_
  have small : Case.lower "block.timestamp".toList = "block.timestamp".toList := by decide
  simp only [List.any_cons, List.any_nil, Bool.or_false, Sought.detects, Bool.or_eq_true, small, occursIn_iff]
  exact or_congr Iff.rfl Builtin.search_now

end ContractScan
