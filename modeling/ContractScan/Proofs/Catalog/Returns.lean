import ContractScan.Proofs.Catalog.Shapes

/-! # Sends whose result is not looked at

The rule for unchecked returns looks for a closing parenthesis after `.send` that is not followed by `require` or `if`.
Blanks before such a word are passed over twice, by the pattern and by its look-ahead. Whatever the first leaves to the
second, the look-ahead sees the same word, so the blanks give no way around it.
-/

namespace ContractScan

open Text Pattern

theorem dropWhile_blank_append {margin : List Char} (blank : margin ∈ blanks) (text : List Char) :
    (margin ++ text).dropWhile isBlank = text.dropWhile isBlank :=
  List.dropWhile_append_of_pos blank

/-- A word that does not start with a blank stands after blanks exactly when it stands at the first other character. -/
theorem mem_blanks_mul_spelled {word : String} {d : Char} {ds : List Char} (starts : word.toList = d :: ds)
    (visible : d.toNat ∈ List.range' 0x21 94) {text : List Char} :
    text ∈ blanks * spelled word * anything ↔ text.dropWhile isBlank ∈ spelled word * anything := by
  simp only [Language.mem_mul]
  constructor
  · rintro ⟨_, ⟨margin, blank, first, spells, rfl⟩, rest, -, rfl⟩
    refine ⟨first, spells, rest, trivial, ?_⟩
    rw [List.append_assoc, dropWhile_blank_append blank]
    change List.Forall₂ SameLetter first word.toList at spells
    rw [starts] at spells
    cases spells with
    | cons same others => simp [same.not_blank visible]
  · rintro ⟨first, spells, rest, -, split⟩
    refine ⟨text.takeWhile isBlank ++ first, ⟨_, allBlank_takeWhile text, first, spells, rfl⟩, rest, trivial, ?_⟩
    rw [List.append_assoc, split, List.takeWhile_append_dropWhile]

/-- After its blanks the text starts with none of the words that look at a result. -/
def Unlooked (text : List Char) : Prop :=
  ∀ word ∈ ["require", "if"], text.dropWhile isBlank ∉ spelled word * anything

theorem unlooked_blank_append {margin : List Char} (blank : margin ∈ blanks) {text : List Char} :
    Unlooked (margin ++ text) ↔ Unlooked text := by
  simp only [Unlooked, dropWhile_blank_append blank]

namespace Builtin

variable {before rest : List Char}

theorem starts_unlooked : (look .ahead true (.alt (sequence (run blank :: letters "require"))
    (sequence (run blank :: letters "if")))).Starts before rest ↔ Unlooked rest := by
  have words := (denotes_blanks.cons (denotes_letters "require")).alt (denotes_blanks.cons (denotes_letters "if"))
  have require : rest ∈ blanks * spelled "require" * anything ↔ _ := mem_blanks_mul_spelled rfl (by decide)
  have condition : rest ∈ blanks * spelled "if" * anything ↔ _ := mem_blanks_mul_spelled rfl (by decide)
  rw [starts_ahead]
  refine (iff_congr words.starts Iff.rfl).trans ?_
  simp only [add_mul, Language.mem_add, require, condition, Unlooked]
  simp

/-- The blanks that the pattern takes itself are no way around its look-ahead. -/
theorem starts_blanks_unlooked : (sequence [run blank, .look .ahead true (.alt
    (sequence (run blank :: letters "require")) (sequence (run blank :: letters "if")))]).Starts before rest ↔
      Unlooked rest := by
  rw [denotes_blanks.starts_cons]
  constructor
  · rintro ⟨margin, later, rfl, blank, starts⟩
    exact (unlooked_blank_append blank).mpr (starts_unlooked.mp starts)
  · intro unlooked
    exact ⟨[], rest, rfl, allBlank_nil, starts_unlooked.mpr unlooked⟩

end Builtin

/-- A line has an unchecked return when some parenthesis that closes after `.send`, with no semicolon in between, is not
followed by `require` or `if` after blanks. It need not be the parenthesis that closes the call. -/
theorem unchecked_return_fires_on_sends :
    Builtin.FiresOn "unchecked-return" {line | ∃ p send w a r,
      line = p ++ send ++ w ++ ['('] ++ a ++ [')'] ++ r ∧
      send ∈ spelled ".send" ∧ AllBlank w ∧ ';' ∉ a ∧
      ∀ word ∈ ["require", "if"], r.dropWhile isBlank ∉ spelled word * anything} := by
  refine Builtin.firesOn_of_pattern rfl fun line => ?_
  have call := Builtin.denotes_letters ".send" |>.append Builtin.denotes_blanks
    |>.append (Builtin.denotes_letters "(") |>.append (Builtin.denotes_other ";" ';' rfl (by decide))
    |>.append (Builtin.denotes_letters ")")
  rw [search_iff (by decide)]
  simp only [call.starts_append, Builtin.starts_blanks_unlooked, Builtin.mem_mul_parentheses]
  have semicolon {a : List Char} : a ∈ without ";" ↔ ';' ∉ a := Builtin.mem_without_one rfl
  constructor
  · rintro ⟨p, _, split, _, r, rfl, ⟨_, a, rfl, head, free⟩, unlooked⟩
    obtain ⟨send, spells, w, blank, rfl⟩ := Language.mem_mul.mp head
    refine ⟨p, send, w, a, r, ?_, spells, blank, semicolon.mp free, unlooked⟩
    simpa using split
  · rintro ⟨p, send, w, a, r, split, spells, blank, free, unlooked⟩
    have head : send ++ w ∈ spelled ".send" * blanks := Language.mem_mul.mpr ⟨send, spells, w, blank, rfl⟩
    refine ⟨p, _, ?_, _, r, rfl, ⟨_, a, rfl, head, semicolon.mpr free⟩, unlooked⟩
    simpa using split

end ContractScan
