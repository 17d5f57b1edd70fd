import ContractScan.Proofs.Catalog.Shapes

/-! # Functions without a visibility

The rule for missing visibility looks for a function header that is not followed by a visibility, as a word of its own,
before the next brace or semicolon. A line is flagged exactly when it holds such a header. Where a header starts
decides where it ends, so a header with a visibility never makes a line flagged; another one on the same line may.
-/

namespace ContractScan

open Text Pattern

def visibilities : List String :=
  ["public", "private", "internal", "external"]

/-- The text states a visibility before its first brace or semicolon: such a word stands in it, and the characters next
to it, if there are any, are no word characters. -/
def StatesVisibility (text : List Char) : Prop :=
  ∃ x word y, text = x ++ word ++ y ∧ x ∈ without "\x7b;" ∧ (∃ visibility ∈ visibilities, word ∈ spelled visibility) ∧
    (∀ c, x.getLast? = some c → isWord c.toNat = false) ∧ ∀ c, y.head? = some c → isWord c.toNat = false

/-- A function header in a line, with what stands before and after it. -/
structure FunctionHeader (line : List Char) where
  before : List Char
  keyword : List Char
  gap : List Char
  name : List Char
  space : List Char
  arguments : List Char
  after : List Char
  line_eq : line = before ++ keyword ++ gap ++ name ++ space ++ ['('] ++ arguments ++ [')'] ++ after
  keyword_spelled : keyword ∈ spelled "function"
  gap_mem : gap ∈ gaps
  name_mem : name ∈ names
  space_blank : AllBlank space
  arguments_closed : ')' ∉ arguments

/-- Runs of characters of one kind that are followed by another kind, or by nothing, are cut in one way only. -/
theorem append_run_inj {P : Char → Prop} {u u' s s' : List Char} (same : u ++ s = u' ++ s') (run : ∀ c ∈ u, P c)
    (run' : ∀ c ∈ u', P c) (stop : ∀ c, s.head? = some c → ¬ P c) (stop' : ∀ c, s'.head? = some c → ¬ P c) :
    u = u' ∧ s = s' := by
  rcases List.append_eq_append_iff.mp same with ⟨more, rfl, rfl⟩ | ⟨more, rfl, rfl⟩
  · cases more with
    | nil => simp
    | cons c more => exact absurd (run' c (by simp)) (stop c rfl)
  · cases more with
    | nil => simp
    | cons c more => exact absurd (run c (by simp)) (stop' c rfl)

theorem not_isNameChar_parenthesis : ¬ IsNameChar '(' := by
  rintro ⟨d, listed, same⟩
  obtain rfl := (sameLetter_iff_eq (List.all_eq_true.mp Builtin.caseless_punctuation '(' (by decide))).mp same.symm
  revert listed
  decide

namespace FunctionHeader

variable {line : List Char}

theorem not_blank_after_gap (header : FunctionHeader line) (more : List Char) :
    ∀ c, (header.name ++ more).head? = some c → ¬ isBlank c = true := by
  intro c first
  rw [List.head?_append_of_ne_nil _ header.name_mem.1] at first
  simp [(header.name_mem.2 c (List.mem_of_head? first)).not_blank]

theorem not_isNameChar_after_name (header : FunctionHeader line) (more : List Char) :
    ∀ c, (header.space ++ '(' :: more).head? = some c → ¬ IsNameChar c := by
  intro c first
  cases space : header.space with
  | nil =>
      obtain rfl : '(' = c := by simpa [space] using first
      exact not_isNameChar_parenthesis
  | cons d ds =>
      obtain rfl : d = c := by simpa [space] using first
      have blank := header.space_blank d (by simp [space])
      exact fun named => by simp [named.not_blank] at blank

/-- A header that starts at a place ends at one place only. -/
theorem after_eq (header other : FunctionHeader line) (start : header.before = other.before) :
    header.after = other.after := by
  have same := header.line_eq.symm.trans other.line_eq
  rw [start] at same
  simp only [List.append_assoc, List.append_cancel_left_eq, List.singleton_append] at same
  -- Piece by piece, since each piece is of another kind than what follows it.
  obtain ⟨-, same⟩ := List.append_inj same
    (header.keyword_spelled.length_eq.trans other.keyword_spelled.length_eq.symm)
  obtain ⟨-, same⟩ := append_run_inj same header.gap_mem.2 other.gap_mem.2
    (header.not_blank_after_gap _) (other.not_blank_after_gap _)
  obtain ⟨-, same⟩ := append_run_inj same header.name_mem.2 other.name_mem.2
    (header.not_isNameChar_after_name _) (other.not_isNameChar_after_name _)
  have parenthesis (more : List Char) : ∀ c, ('(' :: more).head? = some c → ¬ isBlank c = true := by
    rintro _ ⟨⟩
    decide
  obtain ⟨-, same⟩ := append_run_inj same header.space_blank other.space_blank (parenthesis _) (parenthesis _)
  have closing (more : List Char) : ∀ c, (')' :: more).head? = some c → ¬ c ≠ ')' := by
    rintro _ ⟨⟩
    simp
  obtain ⟨-, same⟩ := append_run_inj (List.cons.inj same).2 (List.forall_mem_ne'.mpr header.arguments_closed)
    (List.forall_mem_ne'.mpr other.arguments_closed) (closing _) (closing _)
  exact (List.cons.inj same).2

end FunctionHeader

namespace Builtin

theorem isWord_of_visibility {visibility : String} (listed : visibility ∈ visibilities) {word : List Char}
    (spells : word ∈ spelled visibility) : word ≠ [] ∧ ∀ c ∈ word, isWord c.toNat = true := by
  have letters : ∀ visibility ∈ visibilities, visibility.toList ≠ [] ∧
      (visibility.toList.all fun d => (Case.spellings (Case.lowerCode d.toNat)).all isWord) = true := by
    decide +kernel
  obtain ⟨nonempty, words⟩ := letters visibility listed
  exact isWord_of_mem_spelled nonempty words spells

variable {before rest : List Char}

/-- What the rule takes for a visibility. -/
def visibilityWord : Pattern :=
  .alt (sequence (letters "public")) (.alt (sequence (letters "private"))
    (.alt (sequence (letters "internal")) (sequence (letters "external"))))

/-- What the rule looks for behind a header. -/
def visibilityAhead : Pattern :=
  sequence [run (noneOf "\x7b;"), .anchor .boundary, visibilityWord, .anchor .boundary]

theorem denotes_visibilityWord :
    Denotes [visibilityWord] {word | ∃ visibility ∈ visibilities, word ∈ spelled visibility} := by
  have words := (denotes_letters "public").alt ((denotes_letters "private").alt
    ((denotes_letters "internal").alt (denotes_letters "external")))
  intro before text rest
  refine (words before text rest).trans ?_
  change _ ↔ ∃ visibility ∈ visibilities, text ∈ spelled visibility
  simp [visibilities, Language.mem_add]

/-- The place is behind a closing parenthesis, so that a word may start there. -/
theorem starts_visibilityAhead (closed : before.getLast? = some ')') :
    visibilityAhead.Starts before rest ↔ StatesVisibility rest := by
  have lastOf (x : List Char) : (∀ c, (before ++ x).getLast? = some c → isWord c.toNat = false) ↔
      ∀ c, x.getLast? = some c → isWord c.toNat = false := by
    rw [List.getLast?_append, closed]
    cases x.getLast? with
    | none => simpa using (by decide : isWord ')'.toNat = false)
    | some d => simp
  simp only [visibilityAhead, (denotes_noneOf "\x7b;" (by decide)).starts_cons, starts_anchor_cons,
    denotes_visibilityWord.starts_cons]
  constructor
  · rintro ⟨x, _, rfl, free, left, word, y, rfl, ⟨visibility, listed, spells⟩, right, -⟩
    obtain ⟨nonempty, letters⟩ := isWord_of_visibility listed spells
    refine ⟨x, word, y, by simp, free, ⟨visibility, listed, spells⟩, ?_, ?_⟩
    · exact (lastOf x).mp ((boundary_before nonempty letters).mp left)
    · exact (boundary_after nonempty letters).mp right
  · rintro ⟨x, word, y, rfl, free, ⟨visibility, listed, spells⟩, left, right⟩
    obtain ⟨nonempty, letters⟩ := isWord_of_visibility listed spells
    refine ⟨x, word ++ y, by simp, free, ?_, word, y, rfl, ⟨visibility, listed, spells⟩, ?_, ?_⟩
    · exact (boundary_before nonempty letters).mpr ((lastOf x).mpr left)
    · exact (boundary_after nonempty letters).mpr right
    · exact ⟨[], y, rfl, rfl⟩

theorem starts_unstated (header : List Char) :
    (sequence [.look .ahead true visibilityAhead]).Starts (before ++ (header ++ [')'])) rest ↔
      ¬ StatesVisibility rest := by
  have closed : (before ++ (header ++ [')'])).getLast? = some ')' := by simp [List.getLast?_append]
  change (look .ahead true visibilityAhead).Starts _ rest ↔ _
  rw [starts_ahead, starts_visibilityAhead closed]
  simp

theorem missingVisibility_firesOn : FiresOn "default-visibility"
    {line | ∃ header : FunctionHeader line, ¬ StatesVisibility header.after} := by
  refine firesOn_of_pattern rfl fun line => ?_
  have shape := denotes_letters "function" |>.append (denotes_gaps.cons (denotes_names.cons denotes_blanks))
    |>.append (denotes_letters "(") |>.append (denotes_other ")" ')' rfl (by decide)) |>.append (denotes_letters ")")
  have closing {a : List Char} : a ∈ without ")" ↔ ')' ∉ a := mem_without_one rfl
  rw [search_iff (by decide)]
  simp only [shape.starts_append, mem_mul_parentheses]
  constructor
  · rintro ⟨before, _, split, _, after, rfl, ⟨_, arguments, rfl, head, free⟩, unstated⟩
    obtain ⟨keyword, spells, _, signature, rfl⟩ := Language.mem_mul.mp head
    obtain ⟨gap, gapMem, _, named, rfl⟩ := Language.mem_mul.mp signature
    obtain ⟨name, nameMem, space, blank, rfl⟩ := Language.mem_mul.mp named
    refine ⟨⟨before, keyword, gap, name, space, arguments, after, by simpa using split, spells, gapMem, nameMem, blank,
      closing.mp free⟩, ?_⟩
    exact (starts_unstated _).mp unstated
  · rintro ⟨header, unstated⟩
    have named : header.name ++ header.space ∈ names * blanks :=
      Language.mem_mul.mpr ⟨_, header.name_mem, _, header.space_blank, rfl⟩
    have signature : header.gap ++ (header.name ++ header.space) ∈ gaps * (names * blanks) :=
      Language.mem_mul.mpr ⟨_, header.gap_mem, _, named, rfl⟩
    have head : header.keyword ++ (header.gap ++ (header.name ++ header.space)) ∈
        spelled "function" * (gaps * (names * blanks)) :=
      Language.mem_mul.mpr ⟨_, header.keyword_spelled, _, signature, rfl⟩
    refine ⟨header.before, _, ?_, _, header.after, rfl,
      ⟨_, header.arguments, rfl, head, closing.mpr header.arguments_closed⟩, (starts_unstated _).mpr unstated⟩
    simpa using header.line_eq

end Builtin

/-- A line is flagged for missing visibility when it holds a function header that is not followed by a visibility. A
header that is followed by one is not what makes the line flagged: another header on the line is. -/
theorem missing_visibility_fires_on_headers :
    ∃ rule, Builtin.catalog.find? "default-visibility" = some rule ∧
      (∀ line : String, rule.detects line = true ↔
        ∃ header : FunctionHeader line.toList, ¬ StatesVisibility header.after) ∧
      ∀ (line : String) (header : FunctionHeader line.toList), StatesVisibility header.after →
        (rule.detects line = true ↔
          ∃ other : FunctionHeader line.toList, other.before ≠ header.before ∧ ¬ StatesVisibility other.after) := by
  obtain ⟨rule, found, fires⟩ := Builtin.missingVisibility_firesOn
  refine ⟨rule, found, fires, fun line header states => (fires line).trans ?_⟩
  constructor
  · rintro ⟨other, unstated⟩
    refine ⟨other, fun start => unstated ?_, unstated⟩
    rwa [other.after_eq header start]
  · rintro ⟨other, -, unstated⟩
    exact ⟨other, unstated⟩

/-- The header of the second function has no visibility, and that of the first does not stand in for it. -/
theorem missing_visibility_fires_on_headers_second :
    ∃ rule, Builtin.catalog.find? "default-visibility" = some rule ∧
      ∃ header : FunctionHeader "function f() public \x7b\x7d function g() \x7b\x7d".toList,
        StatesVisibility header.after ∧
        rule.detects "function f() public \x7b\x7d function g() \x7b\x7d" = true ∧
        ∃ other : FunctionHeader "function f() public \x7b\x7d function g() \x7b\x7d".toList,
          other.before ≠ header.before ∧ ¬ StatesVisibility other.after := by
  obtain ⟨rule, found, -, others⟩ := missing_visibility_fires_on_headers
  let header : FunctionHeader "function f() public \x7b\x7d function g() \x7b\x7d".toList :=
    { before := [], keyword := "function".toList, gap := [' '], name := ['f'], space := [], arguments := []
      after := " public \x7b\x7d function g() \x7b\x7d".toList
      line_eq := by decide
      keyword_spelled := List.forall₂_same.mpr fun _ _ => rfl
      gap_mem := ⟨by decide, List.forall_mem_singleton.mpr (by decide)⟩
      name_mem := ⟨by decide, by simpa using ⟨'f', .inl rfl, rfl⟩⟩
      space_blank := allBlank_nil
      arguments_closed := by decide }
  have states : StatesVisibility header.after := by
    refine ⟨[' '], "public".toList, " \x7b\x7d function g() \x7b\x7d".toList, by decide, ?_, ?_, ?_, ?_⟩
    · exact List.forall_mem_singleton.mpr (by decide)
    · exact ⟨"public", by decide, List.forall₂_same.mpr fun _ _ => rfl⟩
    · simpa using (by decide : isWord ' '.toNat = false)
    · simpa using (by decide : isWord ' '.toNat = false)
  have detected : rule.detects "function f() public \x7b\x7d function g() \x7b\x7d" = true := by
    obtain ⟨_, listed, detects⟩ :=
      Builtin.exists_rule (show Builtin.sought.lookup "default-visibility" = some _ from rfl)
    obtain rfl := Option.some.inj (found.symm.trans listed)
    rw [detects]
    decide +kernel
  exact ⟨rule, found, header, states, detected, (others _ header states).mp detected⟩

end ContractScan
