import ContractScan.Pattern.Search
import Mathlib.Data.List.Basic

/-! # What a pattern means

`Pattern.Takes` says which texts a pattern can take at a place of a line, without any order of trial: a
sequence takes what splits into the two, a repetition what splits into so many pieces, and conditions look
at what stands before and after. What a group has matched is not part of a place, so references to groups
have no meaning here, and neither has what keeps to the first way to match.
-/

namespace ContractScan.Pattern

/-- The place between two parts of a line. -/
def Cursor.between (before rest : List Char) : Cursor :=
  { ofLine rest with before := before.reverse }

/-- So many repetitions are within the bounds; `min` is never above `max` in a pattern that has been read. -/
def Bounds.Allows (bounds : Bounds) (n : Nat) : Prop :=
  bounds.min ≤ n ∧ ∀ most, bounds.max = some most → n ≤ most ∨ n = bounds.min

/-- The text splits into `n` pieces, each of which has the property at its place. -/
def Chained (P : (before text rest : List Char) → Prop) : Nat → (before text rest : List Char) → Prop
  | 0, _, text, _ => text = []
  | n + 1, before, text, rest => ∃ first others, text = first ++ others ∧
      P before first (others ++ rest) ∧ Chained P n (before ++ first) others rest

/-- The pattern can take `text` where it stands between `before` and `rest`. -/
def Takes : Pattern → (before text rest : List Char) → Prop
  | .empty, _, text, _ => text = []
  | .char test, _, text, _ => ∃ c, text = [c] ∧ test.accepts c = true
  | .span test bounds _, _, text, _ => bounds.Allows text.length ∧ ∀ c ∈ text, test.accepts c = true
  | .seq first second, before, text, rest => ∃ one other, text = one ++ other ∧
      first.Takes before one (other ++ rest) ∧ second.Takes (before ++ one) other rest
  | .alt first second, before, text, rest => first.Takes before text rest ∨ second.Takes before text rest
  | .iterate body bounds _, before, text, rest =>
      ∃ n, bounds.Allows n ∧ Chained (fun before text rest => body.Takes before text rest) n before text rest
  | .group _ body, before, text, rest => body.Takes before text rest
  | .again _, _, _, _ | .atomic _, _, _, _ | .conditional _ _ _, _, _, _ => False
  | .anchor condition, before, text, rest =>
      text = [] ∧ condition.holds (.between before rest) = true
  | .look .ahead negated body, before, text, rest =>
      text = [] ∧ ((∃ seen after, rest = seen ++ after ∧ body.Takes before seen after) ↔ negated = false)
  | .look (.behind width) negated body, before, text, rest =>
      text = [] ∧ ((∃ early late seen after, before = early ++ late ∧ late.length = width ∧
        late ++ rest = seen ++ after ∧ body.Takes early seen after) ↔ negated = false)

/-- The pattern can take some text that starts between `before` and `rest`. -/
def Starts (pattern : Pattern) (before rest : List Char) : Prop :=
  ∃ text later, rest = text ++ later ∧ pattern.Takes before text later

variable {first second : Pattern} {before text rest : List Char}

theorem takes_run {test : CharTest} {preference : Preference} :
    (span test ⟨0, none⟩ preference).Takes before text rest ↔ ∀ c ∈ text, test.accepts c = true := by
  simp [Takes, Bounds.Allows]

theorem starts_seq : (first.seq second).Starts before rest ↔ ∃ one later, rest = one ++ later ∧
    first.Takes before one later ∧ second.Starts (before ++ one) later := by
  constructor
  · rintro ⟨_, later, rfl, one, other, rfl, taken, taken'⟩
    exact ⟨one, other ++ later, by simp, taken, other, later, rfl, taken'⟩
  · rintro ⟨one, _, rfl, taken, other, later, rfl, taken'⟩
    exact ⟨one ++ other, later, by simp, one, other, rfl, taken, taken'⟩

theorem starts_alt :
    (first.alt second).Starts before rest ↔ first.Starts before rest ∨ second.Starts before rest := by
  simp only [Starts, Takes, and_or_left, exists_or]

theorem starts_ahead {negated : Bool} {body : Pattern} :
    (look .ahead negated body).Starts before rest ↔ (body.Starts before rest ↔ negated = false) := by
  constructor
  · rintro ⟨_, later, rfl, rfl, holds⟩
    exact holds
  · intro holds
    exact ⟨[], rest, rfl, rfl, holds⟩

end ContractScan.Pattern
