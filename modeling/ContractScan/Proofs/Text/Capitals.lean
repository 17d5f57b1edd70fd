import ContractScan.Proofs.Text.Letters
import ContractScan.Text.Case.Upper
import Mathlib

/-! # Which texts have a given upper-case form

The upper-case form of a character is one character, or one of the listed expansions. A word in which no expansion
occurs can therefore only come from a text of the same length, character by character. For ASCII letters the table
leaves four such characters: the letter itself, its small form, the dotless i for `I` and the long s for `S`.
-/

namespace ContractScan.Text.Case

def upperChars (c : Char) : List Char :=
  (upperCodes c.toNat).map Char.ofNat

theorem upper_cons (c : Char) (text : List Char) : upper (c :: text) = upperChars c ++ upper text := rfl

theorem upperCodes_cases (code : Nat) :
    (code, upperCodes code) ∈ upperExpansions ∨ upperCodes code = [Shift.lookup upperShifts code] := by
  unfold upperCodes
  cases found : upperExpansions.lookup code with
  | none => exact .inr rfl
  | some codes =>
      left
      obtain ⟨before, after, split, -⟩ := List.lookup_eq_some_iff.mp found
      simp [split]

/-- No character expands to something that occurs in the word. -/
def isUnexpanded (word : List Char) : Bool :=
  upperExpansions.all fun entry => !occursIn (entry.2.map Char.ofNat) word

theorem isUnexpanded_iff {word : List Char} :
    isUnexpanded word = true ↔ ∀ entry ∈ upperExpansions, ¬ entry.2.map Char.ofNat <:+: word := by
  simp [isUnexpanded, ← occursIn_iff]

theorem isUnexpanded_tail {d : Char} {word : List Char} (whole : isUnexpanded (d :: word) = true) :
    isUnexpanded word = true := by
  rw [isUnexpanded_iff] at whole ⊢
  intro entry member occurs
  exact whole entry member (occurs.trans (List.suffix_cons d word).isInfix)

/-- What starts such a word is the upper-case form of a character only if it is one character. -/
theorem upperChars_singleton {c : Char} {word rest : List Char} (whole : isUnexpanded word = true)
    (start : upperChars c ++ rest = word) : ∃ d, upperChars c = [d] := by
  rcases upperCodes_cases c.toNat with expanded | single
  · have occurs : upperChars c <:+: word := start ▸ (List.prefix_append _ rest).isInfix
    exact absurd occurs (isUnexpanded_iff.mp whole _ expanded)
  · exact ⟨_, by rw [upperChars, single]; rfl⟩

theorem upper_eq_iff {text word : List Char} (whole : isUnexpanded word = true) :
    upper text = word ↔ List.Forall₂ (fun c d => upperChars c = [d]) text word := by
  induction text generalizing word with
  | nil => simp [upper, eq_comm]
  | cons c text ih =>
      rw [upper_cons]
      constructor
      · intro same
        obtain ⟨d, single⟩ := upperChars_singleton whole same
        subst same
        rw [single] at whole ⊢
        exact .cons single ((ih (isUnexpanded_tail whole)).mp rfl)
      · intro matched
        cases matched with
        | cons single others => rw [single, (ih (isUnexpanded_tail whole)).mpr others]; rfl

/-- Only three runs of the table end in ASCII. -/
theorem upperShifts_ascii : ∀ shift ∈ upperShifts, shift.target < 128 →
    shift ∈ [⟨0x61, 0x7A, 1, 0x41⟩, ⟨0x131, 0x131, 1, 0x49⟩, ⟨0x17F, 0x17F, 1, 0x53⟩] := by
  decide +kernel

theorem upperCodes_asciiCapital : ∀ code ∈ asciiCapitals,
    upperCodes code = [code] ∧ upperCodes (code + 32) = [code] ∧ (Char.ofNat code).toLower.toNat = code + 32 := by
  decide

/-- The character becomes the capital ASCII letter `d`. -/
def BecomesCapital (c d : Char) : Prop :=
  c = d ∨ c = d.toLower ∨ (c = 'ı' ∧ d = 'I') ∨ (c = 'ſ' ∧ d = 'S')

theorem becomesCapital_of_lookup {c d : Char} (capital : d.toNat ∈ asciiCapitals)
    (moved : Shift.lookup upperShifts c.toNat = d.toNat) : BecomesCapital c d := by
  have small := (upperCodes_asciiCapital _ capital).2.2
  have range := List.mem_range'_1.mp capital
  rw [Char.ofNat_toNat] at small
  rcases lookup_cases upperShifts c.toNat with same | ⟨shift, member, moves, value⟩
  · left
    exact Char.toNat_inj.mp (same.symm.trans moved)
  · right
    have target := upperShifts_ascii shift member (by omega)
    simp only [Shift.moves, Bool.and_eq_true, decide_eq_true_eq, beq_iff_eq] at moves
    simp only [List.mem_cons, List.not_mem_nil, or_false] at target
    simp only [← Char.toNat_inj, small]
    rcases target with rfl | rfl | rfl
    · left
      dsimp only at moves value
      omega
    · right; left
      change c.toNat = 305 ∧ d.toNat = 73
      dsimp only at moves value
      omega
    · right; right
      change c.toNat = 383 ∧ d.toNat = 83
      dsimp only at moves value
      omega

theorem upperChars_eq_capital {c d : Char} (capital : d.toNat ∈ asciiCapitals) :
    upperChars c = [d] ↔ BecomesCapital c d := by
  obtain ⟨kept, raised, small⟩ := upperCodes_asciiCapital _ capital
  rw [Char.ofNat_toNat] at small
  constructor
  · intro single
    rcases upperCodes_cases c.toNat with expanded | moved
    · have long : ∀ entry ∈ upperExpansions, 2 ≤ entry.2.length := by decide
      have two : 2 ≤ (upperCodes c.toNat).length := long _ expanded
      have one : (upperCodes c.toNat).length = 1 := by simpa [upperChars] using congrArg List.length single
      omega
    · rw [upperChars, moved, List.map_singleton, List.singleton_inj] at single
      have range := List.mem_range'_1.mp capital
      have code := congrArg Char.toNat single
      rw [Char.toNat_ofNat] at code
      split at code
      · exact becomesCapital_of_lookup capital code
      · omega
  · intro becomes
    have whole {code : Nat} (same : upperCodes code = [d.toNat]) : (upperCodes code).map Char.ofNat = [d] := by
      rw [same, List.map_singleton, Char.ofNat_toNat]
    rcases becomes with rfl | rfl | ⟨rfl, rfl⟩ | ⟨rfl, rfl⟩
    · exact whole kept
    · exact whole (by rw [small, raised])
    · decide
    · decide

end ContractScan.Text.Case
