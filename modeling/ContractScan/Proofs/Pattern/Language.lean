import ContractScan.Proofs.Pattern.Adequacy
import ContractScan.Proofs.Text.Letters
import Mathlib.Computability.Language

/-! # Patterns as languages

Many parts of a pattern take the same texts wherever they stand: such parts denote a language. Parts one after the other
denote the product of their languages, so what a pattern finds in a line can be told as a split of the line.
-/

namespace ContractScan.Pattern

open Text

variable {p q r : Pattern} {ps qs : List Pattern} {before text rest : List Char}

theorem takes_seq_assoc :
    ((p.seq q).seq r).Takes before text rest ↔ (p.seq (q.seq r)).Takes before text rest := by
  constructor
  · rintro ⟨_, three, rfl, ⟨one, two, rfl, first, second⟩, third⟩
    refine ⟨one, two ++ three, by simp, ?_, two, three, rfl, second, ?_⟩
    · rwa [List.append_assoc]
    · rwa [List.append_assoc]
  · rintro ⟨one, _, rfl, first, two, three, rfl, second, third⟩
    refine ⟨one ++ two, three, by simp, ⟨one, two, rfl, ?_, second⟩, ?_⟩
    · rwa [← List.append_assoc]
    · rwa [← List.append_assoc]

theorem takes_sequence_cons :
    (sequence (p :: ps)).Takes before text rest ↔ (p.seq (sequence ps)).Takes before text rest := by
  cases ps with
  | nil =>
      constructor
      · intro taken
        exact ⟨text, [], by simp, taken, rfl⟩
      · rintro ⟨one, _, rfl, taken, rfl⟩
        rw [List.append_nil]
        exact taken
  | cons q ps => rfl

theorem takes_sequence_append : (sequence (ps ++ qs)).Takes before text rest ↔
    ((sequence ps).seq (sequence qs)).Takes before text rest := by
  induction ps generalizing before text with
  | nil =>
      constructor
      · intro taken
        exact ⟨[], text, rfl, rfl, by simpa using taken⟩
      · rintro ⟨_, other, rfl, rfl, taken⟩
        simpa using taken
  | cons p ps ih =>
      have inner : (p.seq (sequence (ps ++ qs))).Takes before text rest ↔
          (p.seq ((sequence ps).seq (sequence qs))).Takes before text rest :=
        exists_congr fun _ => exists_congr fun _ => and_congr_right fun _ => and_congr_right fun _ => ih
      have outer : ((p.seq (sequence ps)).seq (sequence qs)).Takes before text rest ↔
          ((sequence (p :: ps)).seq (sequence qs)).Takes before text rest :=
        exists_congr fun _ => exists_congr fun _ => and_congr_right fun _ =>
          and_congr_left fun _ => takes_sequence_cons.symm
      rw [List.cons_append, takes_sequence_cons, inner, ← takes_seq_assoc, outer]

theorem starts_sequence_append : (sequence (ps ++ qs)).Starts before rest ↔
    ∃ one later, rest = one ++ later ∧ (sequence ps).Takes before one later ∧
      (sequence qs).Starts (before ++ one) later := by
  rw [← starts_seq]
  exact exists_congr fun _ => exists_congr fun _ => and_congr_right fun _ => takes_sequence_append

theorem starts_anchor_cons {condition : Anchor} : (sequence (.anchor condition :: ps)).Starts before rest ↔
    condition.holds (.between before rest) = true ∧ (sequence ps).Starts before rest := by
  rw [← List.singleton_append, starts_sequence_append]
  constructor
  · rintro ⟨_, later, rfl, ⟨rfl, holds⟩, starts⟩
    exact ⟨holds, by simpa using starts⟩
  · rintro ⟨holds, starts⟩
    exact ⟨[], rest, rfl, ⟨rfl, holds⟩, by simpa using starts⟩

theorem startsWithWord_eq_false {text : List Char} :
    startsWithWord text = false ↔ ∀ c, text.head? = some c → isWord c.toNat = false := by
  cases text <;> simp [startsWithWord]

theorem startsWithWord_append {word : List Char} (nonempty : word ≠ []) (letters : ∀ c ∈ word, isWord c.toNat = true)
    (after : List Char) : startsWithWord (word ++ after) = true := by
  obtain ⟨c, cs, rfl⟩ := List.exists_cons_of_ne_nil nonempty
  exact letters c List.mem_cons_self

/-- A word character next to the place makes it a boundary exactly when the other neighbour is none. -/
theorem boundary_before {before word after : List Char} (nonempty : word ≠ [])
    (letters : ∀ c ∈ word, isWord c.toNat = true) :
    Anchor.boundary.holds (.between before (word ++ after)) = true ↔
      ∀ c, before.getLast? = some c → isWord c.toNat = false := by
  change (startsWithWord before.reverse != startsWithWord (word ++ after)) = true ↔ _
  rw [startsWithWord_append nonempty letters, Bool.bne_true, Bool.not_eq_true', startsWithWord_eq_false,
    List.head?_reverse]

theorem boundary_after {before word after : List Char} (nonempty : word ≠ [])
    (letters : ∀ c ∈ word, isWord c.toNat = true) :
    Anchor.boundary.holds (.between (before ++ word) after) = true ↔
      ∀ c, after.head? = some c → isWord c.toNat = false := by
  have backwards : ∀ c ∈ word.reverse, isWord c.toNat = true := by simpa using letters
  change (startsWithWord (before ++ word).reverse != startsWithWord after) = true ↔ _
  rw [List.reverse_append, startsWithWord_append (by simpa using nonempty) backwards, Bool.true_bne,
    Bool.not_eq_true', startsWithWord_eq_false]

/-- The parts, one after the other, take the texts of the language and no others, wherever they stand. -/
def Denotes (parts : List Pattern) (texts : Language Char) : Prop :=
  ∀ before text rest, (sequence parts).Takes before text rest ↔ text ∈ texts

def anything : Language Char :=
  Set.univ

namespace Denotes

variable {L M : Language Char}

theorem append (h : Denotes ps L) (h' : Denotes qs M) : Denotes (ps ++ qs) (L * M) := by
  intro before text rest
  rw [takes_sequence_append, Language.mem_mul]
  constructor
  · rintro ⟨one, other, rfl, taken, taken'⟩
    exact ⟨one, (h _ _ _).mp taken, other, (h' _ _ _).mp taken', rfl⟩
  · rintro ⟨one, first, other, second, rfl⟩
    exact ⟨one, other, rfl, (h _ _ _).mpr first, (h' _ _ _).mpr second⟩

theorem cons (h : Denotes [p] L) (h' : Denotes ps M) : Denotes (p :: ps) (L * M) :=
  h.append h'

theorem alt (h : Denotes ps L) (h' : Denotes qs M) : Denotes [.alt (sequence ps) (sequence qs)] (L + M) :=
  fun before text rest => or_congr (h before text rest) (h' before text rest)

theorem starts_append (h : Denotes ps L) : (sequence (ps ++ qs)).Starts before rest ↔
    ∃ one later, rest = one ++ later ∧ one ∈ L ∧ (sequence qs).Starts (before ++ one) later := by
  simp only [starts_sequence_append, h _ _ _]

theorem starts_cons (h : Denotes [p] L) : (sequence (p :: ps)).Starts before rest ↔
    ∃ one later, rest = one ++ later ∧ one ∈ L ∧ (sequence ps).Starts (before ++ one) later :=
  h.starts_append

theorem starts (h : Denotes ps L) : (sequence ps).Starts before rest ↔ rest ∈ L * anything := by
  simp only [Starts, h _ _ _, Language.mem_mul]
  constructor
  · rintro ⟨one, later, rfl, member⟩
    exact ⟨one, member, later, trivial, rfl⟩
  · rintro ⟨one, member, later, -, rfl⟩
    exact ⟨one, later, rfl, member⟩

end Denotes

def anywhere (texts : Language Char) : Language Char :=
  anything * texts * anything

theorem anywhere_add (L M : Language Char) : anywhere (L + M) = anywhere L + anywhere M := by
  simp only [anywhere, mul_add, add_mul]

theorem mem_anywhere {L : Language Char} {line : List Char} :
    line ∈ anywhere L ↔ ∃ before rest, line = before ++ rest ∧ rest ∈ L * anything := by
  rw [anywhere, mul_assoc, Language.mem_mul]
  constructor
  · rintro ⟨before, -, rest, member, rfl⟩
    exact ⟨before, rest, rfl, member⟩
  · rintro ⟨before, rest, rfl, member⟩
    exact ⟨before, trivial, rest, member, rfl⟩

theorem mem_anywhere_iff_infix {L : Language Char} {line : List Char} :
    line ∈ anywhere L ↔ ∃ text, text <:+: line ∧ text ∈ L := by
  simp only [anywhere, Language.mem_mul]
  constructor
  · rintro ⟨_, ⟨before, -, text, member, rfl⟩, after, -, rfl⟩
    exact ⟨text, ⟨before, after, rfl⟩, member⟩
  · rintro ⟨text, ⟨before, after, rfl⟩, member⟩
    exact ⟨_, ⟨before, trivial, text, member, rfl⟩, after, trivial, rfl⟩

theorem Denotes.search_iff {L : Language Char} (h : Denotes ps L) (free : (sequence ps).referenceFree = true)
    {line : List Char} : (sequence ps).search line = true ↔ line ∈ anywhere L := by
  simp only [Pattern.search_iff free, mem_anywhere, h.starts]

/-- A pattern that is tied to the start of the line takes a text that the line starts with. -/
theorem Denotes.search_start_iff {L : Language Char} (h : Denotes ps L)
    (free : (sequence (.anchor .start :: ps)).referenceFree = true) {line : List Char} :
    (sequence (.anchor .start :: ps)).search line = true ↔ line ∈ L * anything := by
  have atStart {before rest : List Char} : Anchor.start.holds (.between before rest) = true ↔ before = [] := by
    simp [Anchor.holds, Cursor.between]
  simp only [Pattern.search_iff free, starts_anchor_cons, atStart, h.starts]
  constructor
  · rintro ⟨_, rest, rfl, rfl, member⟩
    exact member
  · intro member
    exact ⟨[], line, rfl, rfl, member⟩

section Runs

variable {test : CharTest} {C : Char → Prop}

theorem denotes_run (h : ∀ c, test.accepts c = true ↔ C c) (preference : Preference) :
    Denotes [.span test ⟨0, none⟩ preference] {text | ∀ c ∈ text, C c} := by
  intro before text rest
  refine takes_run.trans ?_
  simp only [h]
  rfl

theorem denotes_run1 (h : ∀ c, test.accepts c = true ↔ C c) (preference : Preference) :
    Denotes [.span test ⟨1, none⟩ preference] {text | text ≠ [] ∧ ∀ c ∈ text, C c} := by
  intro before text rest
  have allowed : Bounds.Allows ⟨1, none⟩ text.length ↔ text ≠ [] := by
    rw [← List.length_pos_iff]
    simp [Bounds.Allows, Nat.succ_le_iff]
  simp only [sequence, Takes, allowed, h]
  rfl

end Runs

end ContractScan.Pattern
