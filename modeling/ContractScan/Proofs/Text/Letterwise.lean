import ContractScan.Proofs.Text.Letters
import ContractScan.Proofs.Text.Sigma
import Mathlib

/-! # Lower case, letter by letter

A text can be looked for in two ways without regard to case: in the lower-case form of a line, or character by character
as the same letters. The two differ in few places. The lower-case form looks at the surroundings of a capital sigma and
writes the dotted capital I as two characters, and it keeps the dotless i and the long s apart from the letters that they
are second spellings of. For an ASCII text and a line without the last three, both ways find the same.
-/

namespace ContractScan.Text.Case

variable {c a : Char} {text needle line : List Char}

/-- The lower-case form of a character wherever it stands, both small sigmas taken for one. -/
def lowerChar (c : Char) : Char :=
  unifySigma (Char.ofNat (lowerCode c.toNat))

theorem map_unifySigma_lower (undotted : 'İ' ∉ text) : (lower text).map unifySigma = text.map lowerChar := by
  have capitalSigma : lowerChar 'Σ' = 'σ' := by decide
  have single {before rest : List Char} (c : Char) (other : c ≠ 'İ') :
      (lowerAt before c rest).map unifySigma = [lowerChar c] := by
    unfold lowerAt
    split
    · rename_i sigma
      subst sigma
      unfold lowerSigma
      rw [capitalSigma]
      split <;> rfl
    · rfl
  unfold lower
  generalize [] = before
  induction text generalizing before with
  | nil => rfl
  | cons c text ih =>
      rw [List.mem_cons, not_or] at undotted
      rw [lowerFrom, List.map_append, single c (Ne.symm undotted.1), ih undotted.2, List.map_cons, List.singleton_append]

theorem sigmaFree_iff : sigmaFree text = true ↔ 'σ' ∉ text.map unifySigma := by
  have letter (c : Char) : (c ≠ 'σ' ∧ c ≠ 'ς') ↔ ¬unifySigma c = 'σ' := by
    unfold unifySigma
    split <;> simp_all
  simp [sigmaFree, letter]

/-! Two characters have one lower-case form exactly where they are the same letter, if the one is in ASCII. -/

theorem isValidChar_lowerCode (c : Char) : (lowerCode c.toNat).isValidChar := by
  rcases lookup_cases lowerShifts c.toNat with same | ⟨shift, member, moved, value⟩
  · rw [lowerCode, same]
    exact c.valid
  · have bounds := (lowerShifts_facts shift member).2.2
    simp only [Shift.moves, Bool.and_eq_true, decide_eq_true_eq] at moved
    rw [lowerCode, value, Nat.isValidChar]
    omega

theorem toNat_ofNat_lowerCode (c : Char) : (Char.ofNat (lowerCode c.toNat)).toNat = lowerCode c.toNat := by
  rw [Char.toNat_ofNat, if_pos (isValidChar_lowerCode c)]

theorem lowerCode_lt_ascii (ascii : a.toNat < 128) : lowerCode a.toNat < 128 := by
  have lowered := lowerCode_ascii a.toNat ascii
  omega

theorem ascii_ne_sigma (ascii : a.toNat < 128) :
    Char.ofNat (lowerCode a.toNat) ≠ 'σ' ∧ Char.ofNat (lowerCode a.toNat) ≠ 'ς' := by
  have low := lowerCode_lt_ascii ascii
  rw [← toNat_ofNat_lowerCode a] at low
  refine ⟨fun sigma => ?_, fun sigma => ?_⟩
  · rw [sigma] at low
    exact absurd low (by decide)
  · rw [sigma] at low
    exact absurd low (by decide)

theorem lowerChar_ascii (ascii : a.toNat < 128) : lowerChar a = Char.ofNat (lowerCode a.toNat) :=
  (unifySigma_eq_iff (ascii_ne_sigma ascii)).mpr rfl

theorem lowerChar_eq_iff (ascii : a.toNat < 128) :
    lowerChar c = lowerChar a ↔ lowerCode c.toNat = lowerCode a.toNat := by
  rw [lowerChar_ascii ascii, lowerChar, unifySigma_eq_iff (ascii_ne_sigma ascii), ← Char.toNat_inj,
    toNat_ofNat_lowerCode, toNat_ofNat_lowerCode]

/-- Only the dotless i and the long s are second spellings of ASCII letters. -/
theorem firstSpelling_eq_iff (dotless : c ≠ 'ı') (long : c ≠ 'ſ') {code : Nat} (ascii : code < 128) :
    firstSpelling (lowerCode c.toNat) = code ↔ lowerCode c.toNat = code := by
  rcases spellingIn_cases secondSpellings (lowerCode c.toNat) with same | entry
  · rw [firstSpelling, same]
  · obtain ⟨⟨high, -⟩, -, -, second⟩ := secondSpellings_facts _ entry
    change firstSpelling (lowerCode c.toNat) < 128 → _ at second
    refine iff_of_false (fun first => ?_) (fun low => by omega)
    obtain ⟨-, either, alone⟩ := second (by omega)
    have place := eq_or_mem_capitals c.toNat
    rw [alone] at place
    have same := place.resolve_right List.not_mem_nil
    rcases either with second | second
    · exact dotless (Char.toNat_inj.mp (same.trans second))
    · exact long (Char.toNat_inj.mp (same.trans second))

theorem lowerChar_eq_iff_sameLetter (ascii : a.toNat < 128) (dotless : c ≠ 'ı') (long : c ≠ 'ſ') :
    lowerChar c = lowerChar a ↔ SameLetter c a := by
  have low := lowerCode_lt_ascii ascii
  rw [lowerChar_eq_iff ascii, SameLetter, foldCode, foldCode, firstSpelling_ascii low,
    firstSpelling_eq_iff dotless long low]

theorem occursIn_lower_iff_sameLetter (ascii : ∀ a ∈ needle, a.toNat < 128)
    (special : 'İ' ∉ line ∧ 'ı' ∉ line ∧ 'ſ' ∉ line) :
    occursIn (lower needle) (lower line) = true ↔ ∃ text, text <:+: line ∧ List.Forall₂ SameLetter text needle := by
  obtain ⟨undotted, dotless, long⟩ := special
  have plain : (lower needle).map unifySigma = needle.map lowerChar :=
    map_unifySigma_lower fun member => absurd (ascii _ member) (by decide)
  have free : sigmaFree (lower needle) = true := by
    rw [sigmaFree_iff, plain, List.mem_map]
    rintro ⟨a, member, sigma⟩
    rw [lowerChar_ascii (ascii a member)] at sigma
    exact (ascii_ne_sigma (ascii a member)).1 sigma
  have lowered : lower needle = needle.map lowerChar := ((map_unifySigma_eq_iff free).mpr rfl).symm.trans plain
  rw [occursIn_iff, ← infix_map_unifySigma free, map_unifySigma_lower undotted, lowered, List.infix_map_iff]
  refine exists_congr fun text => and_congr_right fun within => ?_
  rw [eq_comm, ← List.forall₂_eq_eq_eq, List.forall₂_map_left_iff, List.forall₂_map_right_iff]
  refine forall₂_congr_word fun a listed c member => ?_
  refine lowerChar_eq_iff_sameLetter (ascii a listed) ?_ ?_
  · exact fun same => dotless (same ▸ within.subset member)
  · exact fun same => long (same ▸ within.subset member)

end ContractScan.Text.Case
