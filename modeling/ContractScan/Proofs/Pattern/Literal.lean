import ContractScan.Proofs.Catalog.Definition
import ContractScan.Proofs.Catalog.Shapes
import ContractScan.Proofs.Text.Letterwise

/-! # Texts as patterns

With a backslash before every character that is neither a letter nor a digit, a text is read as a pattern for just its
characters, one after the other, whatever they would mean otherwise. Looking for that pattern and looking for the text
are two different comparisons without case, and they agree on lines without the three letters that tell them apart.
-/

namespace ContractScan

open Text Pattern

namespace Pattern

/-- The text with a backslash before every character that is neither a letter nor a digit. -/
def escaped (text : List Char) : List Char :=
  text.flatMap fun c => if c.isAlphanum then [c] else ['\\', c]

theorem escaped_ne_nil {text : List Char} (nonempty : text ≠ []) : escaped text ≠ [] := by
  obtain ⟨c, text, rfl⟩ := List.exists_cons_of_ne_nil nonempty
  rw [escaped, List.flatMap_cons]
  split <;> simp

/-- How a character stands in such a text. -/
def literal (c : Char) : Token :=
  if c.isAlphanum then .char c else .escape c

theorem tokenize_escaped (text : List Char) : tokenize (escaped text) = text.map literal := by
  induction text with
  | nil => rfl
  | cons c text ih =>
      rw [escaped, List.flatMap_cons, ← escaped, List.map_cons, literal]
      by_cases plain : c.isAlphanum = true
      · have other : c ≠ '\\' := by
          rintro rfl
          cases plain
        rw [if_pos plain, if_pos plain, List.singleton_append, tokenize, ih]
        all_goals simp [other]
      · rw [if_neg plain, if_neg plain]
        simp [tokenize, ih]

theorem head?_literals (text : List Char) : (text.map literal).head? ≠ some .dangling := by
  cases text with
  | nil => simp
  | cons c text =>
      rw [List.map_cons, List.head?_cons, literal]
      split <;> simp

namespace Parser

variable {c : Char} {text : List Char} {items : List Item} {inner : Nested} {first : Bool} {reading : Reading}
  {fuel : Nat}

/-! Each character is read as itself. -/

theorem escapes_of_punctuation (other : c.isAlphanum = false) :
    anchorEscape? c = none ∧ categoryEscape? c = none ∧ (controlEscape? c = none ∨ c = '\\') := by
  refine ⟨?_, ?_, ?_⟩
  · fun_cases anchorEscape? c <;> simp_all +decide
  · fun_cases categoryEscape? c <;> simp_all +decide
  · fun_cases controlEscape? c <;> simp_all +decide

theorem escapeItem_punctuation (other : c.isAlphanum = false) : escapeItem c = pure (.single c) := by
  obtain ⟨anchor, category, control | rfl⟩ := escapes_of_punctuation other
  · have digit : c.isDigit = false := by
      simp only [Char.isAlphanum, Bool.or_eq_false_iff] at other
      exact other.2
    have zero : c ≠ '0' := by
      rintro rfl
      cases other
    have code : codeEscape c = pure c.toNat := by
      fun_cases codeEscape c <;> simp_all +decide
    simp [escapeItem, anchor, category, control, zero, digit, code, Item.single]
  · rfl

theorem run_charItem_plain (plain : c.isAlphanum = true) (start : Nat) :
    (charItem inner first start c items).run reading = pure (.single c :: items, reading) := by
  rw [charItem]
  split
  case h_10 => rfl
  all_goals cases plain

theorem run_advance {token : Token} {rest : List Token} (tokens : reading.tokens = token :: rest)
    (ready : rest.head? ≠ some .dangling) : advance.run reading =
      pure ((), { reading with tokens := rest, position := reading.position + token.size }) := by
  simp [advance, tokens, ready]

theorem run_branch_cons (tokens : reading.tokens = (c :: text).map literal) (terse : reading.flags.verbose = false) :
    (branch inner first (fuel + 1) items).run reading = (branch inner first fuel (.single c :: items)).run
      { reading with tokens := text.map literal, position := reading.position + (literal c).size } := by
  have step := run_advance tokens (head?_literals text)
  rw [branch]
  by_cases plain : c.isAlphanum = true
  · have shown : literal c = .char c := if_pos plain
    have bar : c ≠ '|' := by
      rintro rfl
      cases plain
    have close : c ≠ ')' := by
      rintro rfl
      cases plain
    rw [shown] at step ⊢
    simp [peek, tokens, shown, bar, close, step, terse, run_charItem_plain plain]
  · have shown : literal c = .escape c := if_neg plain
    rw [shown] at step ⊢
    simp [peek, tokens, shown, step, escapeItem_punctuation (Bool.not_eq_true _ ▸ plain)]

/-- The fuel is enough for every character. -/
theorem run_branch_literal (enough : text.length ≤ fuel) (tokens : reading.tokens = text.map literal)
    (terse : reading.flags.verbose = false) : ∃ position, (branch inner first fuel items).run reading =
      .ok (sequence ((items.reverse ++ text.map Item.single).map Item.pattern),
        { reading with tokens := [], position := position }) := by
  induction text generalizing fuel items reading with
  | nil =>
      obtain ⟨tokens', position, _⟩ := reading
      cases tokens
      refine ⟨position, ?_⟩
      cases fuel with
      | zero => simp [branch]; rfl
      | succ fuel => simp [branch, peek]; rfl
  | cons c text ih =>
      obtain ⟨fuel, rfl⟩ : ∃ less, fuel = less + 1 := Nat.exists_eq_add_one.mpr (by simp at enough; omega)
      obtain ⟨position, read⟩ := @ih (.single c :: items)
        { reading with tokens := text.map literal, position := reading.position + (literal c).size } fuel
        (by simpa using enough) rfl terse
      refine ⟨position, ?_⟩
      rw [run_branch_cons tokens terse, read]
      simp

theorem run_branchList_literal (tokens : reading.tokens = text.map literal) (terse : reading.flags.verbose = false) :
    ∃ position, (branchList inner first (fuel + 1) []).run reading =
      .ok (sequence (text.map fun c => .char (.single c.toNat false)),
        { reading with tokens := [], position := position }) := by
  obtain ⟨position, read⟩ := @run_branch_literal text [] inner first reading (text.length + 1) (by omega) tokens terse
  refine ⟨position, ?_⟩
  simp [branchList, remaining, accept, peek, tokens, read]
  rfl

end Parser

theorem parse_escaped (text : List Char) :
    parse (escaped text) = .ok (sequence (text.map fun c => .char (.single c.toNat false))) := by
  obtain ⟨position, read⟩ := @Parser.run_branchList_literal text (Parser.nested text.length) true
    (.start (text.map literal)) text.length rfl rfl
  have size : (Reading.start (text.map literal)).tokens.length = text.length := List.length_map literal
  rw [parse, tokenize_escaped, if_neg (head?_literals text)]
  simp [Parser.whole, Parser.remaining, Parser.checkConditions, size, read]
  rfl

end Pattern

namespace Builtin

theorem referenceFree_letters (word : String) : (sequence (letters word)).referenceFree = true := by
  rw [letters]
  induction word.toList with
  | nil => rfl
  | cons c cs ih =>
      cases cs with
      | nil => rfl
      | cons d cs => exact ih

end Builtin

/-- A pattern of letters finds what the lower-case form of the line holds. -/
theorem search_letters_eq_occursIn {needle : String} (ascii : ∀ c ∈ needle.toList, c.toNat < 128) {line : List Char}
    (special : 'İ' ∉ line ∧ 'ı' ∉ line ∧ 'ſ' ∉ line) :
    (sequence (Builtin.letters needle)).search line = occursIn (Case.lower needle.toList) (Case.lower line) := by
  rw [Bool.eq_iff_iff, Case.occursIn_lower_iff_sameLetter ascii special,
    (Builtin.denotes_letters needle).search_iff (Builtin.referenceFree_letters needle), mem_anywhere_iff_infix]
  rfl

/-- With a backslash before all but its letters and digits, an ASCII text is a pattern that finds what the text finds, on
every line without the dotted capital I, the dotless small one and the long s. -/
theorem escaped_pattern_detects_like_text (needle : String) (nonempty : needle ≠ "")
    (ascii : ∀ c ∈ needle.toList, c.toNat < 128) :
    ∃ pattern text, Matcher.ofPattern (.ofList (escaped needle.toList)) = .ok pattern ∧
      Matcher.ofSubstring needle = .ok text ∧
      ∀ line : String, 'İ' ∉ line.toList → 'ı' ∉ line.toList → 'ſ' ∉ line.toList →
        pattern.detects line = text.detects line := by
  have written : String.ofList (escaped needle.toList) ≠ "" := by
    intro empty
    have nothing : escaped needle.toList = [] := by simpa using congrArg String.toList empty
    exact escaped_ne_nil (mt String.toList_eq_nil_iff.mp nonempty) nothing
  have readable : Pattern.read (.ofList (escaped needle.toList)) = .ok (sequence (Builtin.letters needle)) := by
    rw [Pattern.read, String.toList_ofList, parse_escaped]
    rfl
  refine ⟨.regex ⟨.ofList (escaped needle.toList), sequence (Builtin.letters needle), written⟩,
    .substring ⟨needle, nonempty⟩, Matcher.ofExpression_eq_ok.mpr ⟨rfl, readable⟩, dif_neg nonempty, ?_⟩
  intro line undotted dotless long
  exact search_letters_eq_occursIn ascii ⟨undotted, dotless, long⟩

/-- The line has a Kelvin sign for the letter. -/
theorem escaped_pattern_detects_like_text_kelvin : ∃ pattern text,
    Matcher.ofPattern "k\\[0\\]\\+" = .ok pattern ∧ Matcher.ofSubstring "k[0]+" = .ok text ∧
      pattern.detects "2\u212A[0]+" = true ∧ text.detects "2\u212A[0]+" = true := by
  obtain ⟨pattern, text, read, found, agree⟩ := escaped_pattern_detects_like_text "k[0]+" (by decide) (by simp)
  have detected : text.detects "2\u212A[0]+" = true := by
    cases found
    decide
  exact ⟨pattern, text, read, found, (agree _ (by decide) (by decide) (by decide)).trans detected, detected⟩

end ContractScan
