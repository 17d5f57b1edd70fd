import ContractScan.Proofs.Catalog.Definition
import ContractScan.Proofs.Pattern.Positions
import ContractScan.Proofs.Text.Letters

/-! # The verdict of a search

A pattern is put together while it is read: what several branches start with is taken out before the choice, branches of
one character each become a set, and one repeated character becomes a run. None of this changes what the pattern means,
with one exception: beyond the basic plane a set tests a letter as it is written, so the letter can get lost. And which
number of repetitions is tried first never matters.
-/

namespace ContractScan

namespace Pattern

open Text.Case

variable {line : List Char} {i j : Nat} {p : Pattern} {ps qs : List Pattern}

/-! ## Sequences, runs and choices -/

theorem means_sequence_cons : (sequence (p :: ps)).Means line i j ↔
    ∃ k, p.Means line i k ∧ (sequence ps).Means line k j := by
  cases ps with
  | nil =>
      constructor
      · intro means
        exact ⟨j, means, rfl⟩
      · rintro ⟨_, means, rfl⟩
        exact means
  | cons q ps => rfl

theorem means_sequence_append : (sequence (ps ++ qs)).Means line i j ↔
    ∃ k, (sequence ps).Means line i k ∧ (sequence qs).Means line k j := by
  induction ps generalizing i with
  | nil => simp [sequence, Means]
  | cons p ps ih =>
      simp only [List.cons_append, means_sequence_cons, ih]
      constructor
      · rintro ⟨k, first, l, second, third⟩
        exact ⟨l, ⟨k, first, second⟩, third⟩
      · rintro ⟨l, ⟨k, first, second⟩, third⟩
        exact ⟨k, first, l, second, third⟩

theorem means_sequence_parts : (sequence p.parts).Means line i j ↔ p.Means line i j := by
  induction p generalizing i j with
  | seq first second ih ih' =>
      rw [parts, means_sequence_append, Means]
      simp only [ih, ih']
  | _ => rfl

theorem means_repeated {body : Pattern} {bounds : Bounds} {preference : Preference} :
    (body.repeated bounds preference).Means line i j ↔ ∃ n, bounds.Holds n ∧ Steps (body.Means line) n i j := by
  unfold repeated
  split <;> rfl

theorem means_chain (nonempty : ps ≠ []) : (chain ps).Means line i j ↔ ∃ p ∈ ps, p.Means line i j := by
  induction ps with
  | nil => exact absurd rfl nonempty
  | cons p ps ih =>
      cases ps with
      | nil => simp [chain]
      | cons q ps =>
          rw [chain, Means, ih (by simp)]
          · simp
          · simp

/-- A capital letter from beyond the basic plane. -/
def IsFarCapital (code : Nat) : Prop :=
  basicPlaneEnd < code ∧ lowerCode code ≠ code

/-- Small letters from beyond the basic plane stay as they are. -/
theorem not_isFarCapital_lowerCode (code : Nat) : ¬IsFarCapital (lowerCode code) := by
  have apart : ∀ shift ∈ lowerShifts, basicPlaneEnd < shift.target + (shift.last - shift.first) →
      ∀ other ∈ lowerShifts, shift.target + (shift.last - shift.first) < other.first ∨ other.last < shift.target := by
    decide +kernel
  rintro ⟨far, capital⟩
  rcases lookup_cases lowerShifts code with same | ⟨shift, member, moved, value⟩
  · exact capital (congrArg lowerCode same)
  · rcases lookup_cases lowerShifts (lowerCode code) with same | ⟨other, member', moved', -⟩
    · exact capital same
    · have target : lowerCode code = shift.target + (code - shift.first) := value
      simp only [Shift.moves, Bool.and_eq_true, decide_eq_true_eq] at moved moved'
      have := apart shift member (by omega) other member'
      omega

theorem firstSpelling_of_far {code : Nat} (far : basicPlaneEnd < code) {small : Nat} :
    firstSpelling small = code ↔ small = code := by
  rcases spellingIn_cases secondSpellings small with same | entry
  · rw [firstSpelling, same]
  · obtain ⟨-, second, first⟩ := (secondSpellings_facts _ entry).1
    change small ≤ basicPlaneEnd at second
    change firstSpelling small ≤ basicPlaneEnd at first
    omega

theorem accepts_set {items : List SetItem} {c : Char} : (CharTest.set items false).accepts c = true ↔
    ∃ item ∈ items, item.admits (lowerCode c.toNat) = true := by
  simp [CharTest.accepts, CharTest.admits]

/-- As a member of a set a character is found where it is found alone, unless it is a far capital. -/
theorem accepts_set_single {code : Nat} {c : Char} : (CharTest.set [.single code] false).accepts c = true ↔
    (CharTest.single code false).accepts c = true ∧ ¬IsFarCapital code := by
  by_cases near : code ≤ basicPlaneEnd
  · simp [CharTest.accepts, CharTest.admits, SetItem.admits, IsFarCapital, near, Nat.not_lt.mpr near]
  · have far : basicPlaneEnd < code := Nat.not_le.mp near
    have written : (CharTest.set [.single code] false).accepts c = true ↔ lowerCode c.toNat = code := by
      simp [CharTest.accepts, CharTest.admits, SetItem.admits, near]
    have folded : (CharTest.single code false).accepts c = true ↔ firstSpelling (lowerCode c.toNat) = foldCode code := by
      simp [CharTest.accepts, CharTest.admits]
    rw [written, folded]
    constructor
    · rintro rfl
      have small := not_isFarCapital_lowerCode c.toNat
      have fixed : lowerCode (lowerCode c.toNat) = lowerCode c.toNat :=
        Classical.not_not.mp fun moved => small ⟨far, moved⟩
      exact ⟨by rw [foldCode, fixed], small⟩
    · rintro ⟨same, small⟩
      have fixed : lowerCode code = code := Classical.not_not.mp fun moved => small ⟨far, moved⟩
      rwa [foldCode, fixed, (firstSpelling_of_far far).mpr rfl, firstSpelling_of_far far] at same

def IsFarLetter (p : Pattern) : Prop :=
  ∃ code, p = char (.single code false) ∧ IsFarCapital code

theorem means_members {items : List SetItem} (members : p.setItems? = some items) :
    (char (.set items false)).Means line i j ↔ p.Means line i j ∧ ¬p.IsFarLetter := by
  unfold setItems? at members
  split at members
  · rename_i code
    cases members
    simp only [Means, CharTest.Passes, accepts_set_single, IsFarLetter, char.injEq, CharTest.single.injEq, and_true,
      exists_eq_left']
    tauto
  · cases members
    simp [IsFarLetter]
  · cases members

theorem means_set_flatten {lists : List (List SetItem)} :
    (char (.set lists.flatten.eraseDups false)).Means line i j ↔
      ∃ items ∈ lists, (char (.set items false)).Means line i j := by
  simp only [Means, CharTest.Passes, accepts_set, List.mem_eraseDups, List.mem_flatten]
  constructor
  · rintro ⟨step, c, here, item, ⟨items, listed, member⟩, admitted⟩
    exact ⟨items, listed, step, c, here, item, member, admitted⟩
  · rintro ⟨items, listed, step, c, here, item, member, admitted⟩
    exact ⟨step, c, here, item, ⟨items, listed, member⟩, admitted⟩

/-- Each of the patterns stands for one character. -/
def Single (ps : List Pattern) : Prop :=
  ∀ p ∈ ps, p.setItems?.isSome = true

theorem mapM_setItems? (ps : List Pattern) :
    (∃ lists, ps.mapM setItems? = some lists ∧ Single ps ∧
      List.Forall₂ (fun p items => p.setItems? = some items) ps lists) ∨
    ps.mapM setItems? = none ∧ ¬Single ps ∧ ps ≠ [] := by
  induction ps with
  | nil => exact .inl ⟨[], rfl, by simp [Single], .nil⟩
  | cons p ps ih =>
      rw [List.mapM_cons, Single, List.forall_mem_cons]
      cases here : p.setItems? with
      | none => simp
      | some items =>
          rcases ih with ⟨lists, there, single, listed⟩ | ⟨there, several, -⟩
          · exact .inl ⟨items :: lists, by simp [there], ⟨rfl, single⟩, .cons here listed⟩
          · exact .inr ⟨by simp [there], fun all => several all.2, by simp⟩

theorem means_choice : (choice ps).Means line i j ↔
    ∃ p ∈ ps, p.Means line i j ∧ ¬(Single ps ∧ p.IsFarLetter) := by
  unfold choice
  rcases mapM_setItems? ps with ⟨lists, members, single, listed⟩ | ⟨mixed, several, nonempty⟩
  · simp only [members, means_set_flatten, single, true_and]
    clear members single
    induction listed with
    | nil => simp
    | cons here _ ih => simp only [List.exists_mem_cons_iff, ih, means_members here]
  · simp only [mixed, means_chain nonempty, several, false_and, not_false_eq_true, and_true]

/-- Only a sequence of one part stands for one character. -/
theorem eq_singleton_of_setItems? (one : (sequence ps).setItems?.isSome = true) : ps = [sequence ps] := by
  match ps with
  | [] => cases one
  | [_] => rfl
  | _ :: _ :: _ => cases one

/-- Beyond what all branches start with, each has one character left, so that these form a set. -/
def FormSet (p : Pattern) (ps : List Pattern) : Prop :=
  Single ((splitStart p.parts (ps.map parts)).2.map sequence)

/-- The last of the parts is a far capital. -/
def EndFar (parts : List Pattern) : Prop :=
  ∃ last, parts.getLast? = some last ∧ last.IsFarLetter

theorem endFar_append {start rest : List Pattern} (one : (sequence rest).setItems?.isSome = true) :
    EndFar (start ++ rest) ↔ (sequence rest).IsFarLetter := by
  rw [eq_singleton_of_setItems? one]
  simp [EndFar, sequence]

/-- Branches mean what any of them means, but in a set of what is left of them a far capital gets lost. -/
theorem means_alternatives {q : Pattern} : (alternatives (p :: q :: ps)).Means line i j ↔
    ∃ branch ∈ p :: q :: ps, branch.Means line i j ∧ ¬(FormSet p (q :: ps) ∧ EndFar branch.parts) := by
  have lists := map_append_splitStart p.parts ((q :: ps).map parts)
  rw [← List.map_cons] at lists
  rw [alternatives, FormSet]
  · dsimp only
    generalize splitStart p.parts ((q :: ps).map parts) = split at lists
    obtain ⟨start, left⟩ := split
    dsimp only at lists ⊢
    have ends (rest : List Pattern) (member : rest ∈ left) :
        Single (left.map sequence) ∧ (sequence rest).IsFarLetter ↔
          Single (left.map sequence) ∧ EndFar (start ++ rest) :=
      and_congr_right fun single => (endFar_append (single _ (List.mem_map_of_mem member))).symm
    calc (sequence (start ++ [choice (left.map sequence)])).Means line i j
      _ ↔ ∃ k, (sequence start).Means line i k ∧ ∃ rest ∈ left, (sequence rest).Means line k j ∧
            ¬(Single (left.map sequence) ∧ (sequence rest).IsFarLetter) := by
          rw [means_sequence_append]
          simp only [sequence, means_choice, List.mem_map, exists_exists_and_eq_and]
      _ ↔ ∃ parts ∈ left.map (start ++ ·), (sequence parts).Means line i j ∧
            ¬(Single (left.map sequence) ∧ EndFar parts) := by
          simp only [List.mem_map, exists_exists_and_eq_and, means_sequence_append]
          constructor
          · rintro ⟨k, common, rest, member, means, kept⟩
            exact ⟨rest, member, ⟨k, common, means⟩, mt (ends rest member).mpr kept⟩
          · rintro ⟨rest, member, ⟨k, common, means⟩, kept⟩
            exact ⟨k, common, rest, member, means, mt (ends rest member).mp kept⟩
      _ ↔ ∃ branch ∈ p :: q :: ps, branch.Means line i j ∧
            ¬(Single (left.map sequence) ∧ EndFar branch.parts) := by
          rw [lists]
          simp only [List.mem_map, exists_exists_and_eq_and, means_sequence_parts]
  · simp

/-! ## Preferences -/

/-- The pattern with every repetition trying the greatest number first. -/
def eager : Pattern → Pattern
  | .span test bounds _ => .span test bounds .most
  | .seq first second => .seq first.eager second.eager
  | .alt first second => .alt first.eager second.eager
  | .iterate body bounds _ => .iterate body.eager bounds .most
  | .group index body => .group index body.eager
  | .look direction negated body => .look direction negated body.eager
  | p => p

theorem means_eager (p : Pattern) : p.eager.Means line = p.Means line := by
  induction p with
  | look direction negated body ih =>
      cases direction <;> simp only [eager, Means, ih]
  | _ => simp_all only [eager, Means]

theorem referenceFree_eager (p : Pattern) : p.eager.referenceFree = p.referenceFree := by
  induction p <;> simp_all [eager, referenceFree]

end Pattern

/-- An expression that is what its source is read as. -/
structure Regex extends Expression where
  parsed : Pattern.read source = .ok pattern

namespace Regex

open Pattern

theorem detects_iff_means (regex : Regex) (free : regex.pattern.referenceFree = true) (line : String) :
    regex.detects line = true ↔
      ∃ i j, i ≤ j ∧ j ≤ line.toList.length ∧ regex.pattern.Means line.toList i j :=
  search_iff_means (parse_wellFormed regex.parsed) free

theorem detects_eq_of_eager {regex other : Regex} (free : regex.pattern.referenceFree = true)
    (same : other.pattern.eager = regex.pattern.eager) (line : String) : other.detects line = regex.detects line := by
  have free' : other.pattern.referenceFree = true := by
    rw [← referenceFree_eager, same, referenceFree_eager, free]
  rw [Bool.eq_iff_iff, detects_iff_means regex free, detects_iff_means other free', ← means_eager regex.pattern,
    ← means_eager other.pattern, same]

/-- A written pattern without references to groups and without atomic ones is found in a line exactly if it holds
between two positions of the line, so the verdict does not depend on which number of repetitions is tried first. Parts
one after the other and repetitions mean what they say, however they are put together while reading. So do branches,
except that a far capital gets lost where they form a set. -/
theorem detection_is_declarative (regex : Regex) (free : regex.pattern.referenceFree = true) :
    Matcher.ofPattern regex.source = .ok (.regex regex.toExpression) ∧
    (∀ line, (Matcher.regex regex.toExpression).detects line = true ↔
      ∃ i j, i ≤ j ∧ j ≤ line.toList.length ∧ regex.pattern.Means line.toList i j) ∧
    (∀ other : Regex, other.pattern.eager = regex.pattern.eager →
      ∀ line, (Matcher.regex other.toExpression).detects line = (Matcher.regex regex.toExpression).detects line) ∧
    ∀ (line : List Char) (i j : Nat),
      (∀ p ps, (sequence (p :: ps)).Means line i j ↔ ∃ k, p.Means line i k ∧ (sequence ps).Means line k j) ∧
      (∀ p bounds preference, (repeated p bounds preference).Means line i j ↔
        ∃ n, bounds.Holds n ∧ Steps (p.Means line) n i j) ∧
      ∀ p q ps, (alternatives (p :: q :: ps)).Means line i j ↔
        ∃ branch ∈ p :: q :: ps, branch.Means line i j ∧ ¬(FormSet p (q :: ps) ∧ EndFar branch.parts) :=
  ⟨Matcher.ofExpression_eq_ok.mpr ⟨rfl, regex.parsed⟩, detects_iff_means regex free, fun _ => detects_eq_of_eager free,
    fun _ _ _ => ⟨fun _ _ => means_sequence_cons, fun _ _ _ => means_repeated, fun _ _ _ => means_alternatives⟩⟩

/-- A repetition whose body can take nothing, lazy and greedy. -/
theorem detection_is_declarative_empty_body : ∃ lazy greedy : Regex,
    lazy.source = "(?:a|)*?b" ∧ greedy.source = "(?:a|)*b" ∧ lazy.pattern.referenceFree = true ∧
    greedy.pattern.eager = lazy.pattern.eager ∧
    (∀ line, (Matcher.regex greedy.toExpression).detects line = (Matcher.regex lazy.toExpression).detects line) ∧
    ∀ line, (Matcher.regex lazy.toExpression).detects line = true ↔
      ∃ i j, i ≤ j ∧ j ≤ line.toList.length ∧ lazy.pattern.Means line.toList i j := by
  let either : Pattern := .alt (.char (.single 0x61 false)) .empty
  let lazy : Regex := ⟨⟨"(?:a|)*?b", .seq (.iterate either ⟨0, none⟩ .fewest) (.char (.single 0x62 false)),
    by decide⟩, by decide +kernel⟩
  let greedy : Regex := ⟨⟨"(?:a|)*b", .seq (.iterate either ⟨0, none⟩ .most) (.char (.single 0x62 false)),
    by decide⟩, by decide +kernel⟩
  obtain ⟨-, positions, preferences, -⟩ := detection_is_declarative lazy rfl
  exact ⟨lazy, greedy, rfl, rfl, rfl, rfl, preferences greedy rfl, positions⟩

-- A possessive repetition gives nothing back, so the order of trial decides what it is found in.
example : (Matcher.ofPattern "a*+a").map (·.detects "aa") = .ok false := by decide +kernel

/-- One of the branches holds between the first two positions, but the pattern is not found. -/
theorem bar_between_letters_loses_far_capital :
    parse "𐐀".toList = .ok (.char (.single 0x10400 false)) ∧ parse "b".toList = .ok (.char (.single 0x62 false)) ∧
    (Pattern.alt (.char (.single 0x10400 false)) (.char (.single 0x62 false))).Means "𐐀".toList 0 1 ∧
    (Matcher.ofPattern "𐐀|b").map (·.detects "𐐀") = .ok false :=
  ⟨by decide +kernel, by decide +kernel, .inl ⟨rfl, '𐐀', rfl, by decide +kernel⟩, by decide +kernel⟩

end Regex

end ContractScan
