import ContractScan.Proofs.Catalog.Embedding
import ContractScan.Proofs.Pattern.Language

/-! # The shapes of lines that built-in rules fire on

The patterns of the built-in rules are put together from words, blanks, names and runs of other characters, each of
which denotes a language. A rule therefore fires on a line exactly when the line can be split into such pieces, however
the runs in its pattern overlap and however much they have to give back.
-/

namespace ContractScan

open Text Pattern

/-- Texts that spell the word, whatever the case of its letters. -/
def spelled (word : String) : Language Char :=
  {text | List.Forall₂ SameLetter text word.toList}

def blanks : Language Char :=
  {text | AllBlank text}

/-- One blank or more. -/
def gaps : Language Char :=
  {text | text ≠ [] ∧ AllBlank text}

def without (chars : String) : Language Char :=
  {text | ∀ c ∈ text, c ∉ chars.toList}

theorem isAlphanum_iff (d : Char) : d.isAlphanum = true ↔ (97 ≤ d.toNat ∧ d.toNat ≤ 122) ∨
    (65 ≤ d.toNat ∧ d.toNat ≤ 90) ∨ (48 ≤ d.toNat ∧ d.toNat ≤ 57) := by
  delta Char.isAlphanum Char.isAlpha Char.isUpper Char.isLower Char.isDigit
  simp only [Bool.or_eq_true, Bool.and_eq_true, decide_eq_true_eq, ge_iff_le, UInt32.le_iff_toNat_le]
  change ((65 ≤ d.toNat ∧ d.toNat ≤ 90) ∨ (97 ≤ d.toNat ∧ d.toNat ≤ 122)) ∨ (48 ≤ d.toNat ∧ d.toNat ≤ 57) ↔ _
  tauto

/-- A letter, a digit or the underscore of ASCII, whatever its case. -/
def IsNameChar (c : Char) : Prop :=
  ∃ d : Char, (d.isAlphanum = true ∨ d = '_') ∧ SameLetter c d

theorem IsNameChar.not_blank {c : Char} (h : IsNameChar c) : isBlank c = false := by
  obtain ⟨d, listed, same⟩ := h
  refine same.not_blank (List.mem_range'_1.mpr ?_)
  rcases listed with alphanumeric | rfl
  · rw [isAlphanum_iff] at alphanumeric
    omega
  · decide

/-- One such character or more. -/
def names : Language Char :=
  {text | text ≠ [] ∧ ∀ c ∈ text, IsNameChar c}

namespace Builtin

theorem accepts_single (c d : Char) : (CharTest.single d.toNat false).accepts c = true ↔ SameLetter c d := by
  simp [CharTest.accepts, CharTest.admits, SameLetter, Case.foldCode]

theorem accepts_any (c : Char) : CharTest.any.accepts c = true ↔ c ∉ "\n".toList := by
  simp [CharTest.accepts, CharTest.admits, lowerCode_eq_feed]

theorem accepts_blank (c : Char) : blank.accepts c = true ↔ isBlank c = true := by
  simp [blank, CharTest.accepts, CharTest.admits, SetItem.admits, Category.holds, isBlankCode_lowerCode]

theorem accepts_other {d : Char} (caseless : isCaseless d = true) (c : Char) :
    (other d).accepts c = true ↔ c ∉ [d] := by
  have same := sameLetter_iff_eq caseless (c := c)
  rw [SameLetter, Case.foldCode] at same
  simp [other, CharTest.accepts, CharTest.admits, same]

theorem accepts_noneOf {chars : String} (caseless : chars.toList.all isCaseless = true)
    (basic : chars.toList.all (·.toNat ≤ basicPlaneEnd) = true) (c : Char) :
    (noneOf chars).accepts c = true ↔ c ∉ chars.toList := by
  have admits : ∀ d ∈ chars.toList,
      ((SetItem.single d.toNat).admits (Case.lowerCode c.toNat) = true ↔ c = d) := by
    intro d member
    have low := of_decide_eq_true (List.all_eq_true.mp basic d member)
    rw [SetItem.admits, if_pos low, beq_iff_eq]
    exact sameLetter_iff_eq (List.all_eq_true.mp caseless d member)
  rw [noneOf, CharTest.accepts, CharTest.admits, Bool.bne_true, Bool.not_eq_true', List.any_map, List.any_eq_false]
  constructor
  · intro none member
    exact none c member ((admits c member).mpr rfl)
  · intro absent d member same
    exact absent ((admits d member).mp same ▸ member)

theorem admits_range {first last : Nat} (ascii : last < 128) (c : Char) :
    (SetItem.range first last).admits (Case.lowerCode c.toNat) = true ↔
      ∃ d : Char, (first ≤ d.toNat ∧ d.toNat ≤ last) ∧ SameLetter c d := by
  have low : ¬ basicPlaneEnd < last := by
    unfold basicPlaneEnd
    omega
  have listed : Case.lowerCode c.toNat ∈ Case.spellings (Case.lowerCode c.toNat) := List.mem_cons_self
  simp only [SetItem.admits, low, decide_false, Bool.false_and, Bool.or_false, Bool.or_eq_true, List.any_eq_true,
    between, Bool.and_eq_true, decide_eq_true_eq]
  constructor
  · intro inside
    -- The small letter is a spelling itself, so one case is enough.
    obtain ⟨code, member, bounds⟩ : ∃ code ∈ Case.spellings (Case.lowerCode c.toNat), first ≤ code ∧ code ≤ last :=
      inside.elim (fun bounds => ⟨_, listed, bounds⟩) id
    have valid : (Char.ofNat code).toNat = code := by
      rw [Char.ofNat, dif_pos (.inl (by omega))]
      rfl
    refine ⟨Char.ofNat code, by rwa [valid], ?_⟩
    rw [SameLetter, valid]
    exact (Case.foldCode_of_mem_spellings (by omega) member).symm
  · rintro ⟨d, bounds, same⟩
    exact .inr ⟨d.toNat, Case.mem_spellings same.symm, bounds⟩

theorem accepts_nameChar (c : Char) : nameChar.accepts c = true ↔ IsNameChar c := by
  have underscore : (SetItem.single 95).admits (Case.lowerCode c.toNat) = true ↔ SameLetter c '_' := by
    rw [SetItem.admits, if_pos (by decide), beq_iff_eq]
    rfl
  simp only [nameChar, CharTest.accepts, CharTest.admits, Bool.bne_false, List.any_cons, List.any_nil, Bool.or_false,
    Bool.or_eq_true, admits_range (show 122 < 128 by omega), admits_range (show 90 < 128 by omega),
    admits_range (show 57 < 128 by omega), underscore, IsNameChar, isAlphanum_iff, or_and_right, exists_or,
    exists_eq_left, or_assoc]

theorem caseless_punctuation : "(),;\x7b".toList.all isCaseless = true := by
  decide +kernel

/-- Punctuation is spelled in one way. -/
theorem mem_spelled_punctuation {word : String} (listed : word.toList ⊆ "(),;\x7b".toList)
    {text : List Char} : text ∈ spelled word ↔ text = word.toList := by
  have exact : List.Forall₂ SameLetter text word.toList ↔ List.Forall₂ Eq text word.toList :=
    forall₂_congr_word fun d member _ _ => sameLetter_iff_eq (List.all_eq_true.mp caseless_punctuation d (listed member))
  refine exact.trans ?_
  rw [List.forall₂_eq_eq_eq]

/-- What holds of every spelling of every letter of a word holds of the characters that spell it. -/
theorem apply_of_mem_spelled {word : String} {p : Nat → Bool}
    (all : (word.toList.all fun d => (Case.spellings (Case.lowerCode d.toNat)).all p) = true)
    {text : List Char} (spells : text ∈ spelled word) : ∀ c ∈ text, p c.toNat = true := by
  change List.Forall₂ SameLetter text word.toList at spells
  generalize word.toList = letters at all spells
  induction spells with
  | nil => simp
  | cons same others ih =>
      rw [List.all_cons, Bool.and_eq_true] at all
      exact List.forall_mem_cons.mpr ⟨same.apply all.1, ih all.2⟩

/-- What spells a word of word characters is such a word itself. -/
theorem isWord_of_mem_spelled {word : String} (nonempty : word.toList ≠ [])
    (words : (word.toList.all fun d => (Case.spellings (Case.lowerCode d.toNat)).all isWord) = true)
    {text : List Char} (spells : text ∈ spelled word) : text ≠ [] ∧ ∀ c ∈ text, isWord c.toNat = true := by
  refine ⟨?_, apply_of_mem_spelled words spells⟩
  rintro rfl
  exact nonempty (List.forall₂_nil_left_iff.mp spells)

theorem mem_without_one {chars : String} {d : Char} (only : chars.toList = [d]) {text : List Char} :
    text ∈ without chars ↔ d ∉ text := by
  change (∀ c ∈ text, c ∉ chars.toList) ↔ _
  rw [only]
  simp [List.forall_mem_ne']

theorem mem_mul_parentheses {L : Language Char} {chars : String} {text : List Char} :
    text ∈ L * spelled "(" * without chars * spelled ")" ↔
      ∃ head a, text = head ++ ['('] ++ a ++ [')'] ∧ head ∈ L ∧ a ∈ without chars := by
  have opening {text : List Char} : text ∈ spelled "(" ↔ text = ['('] := mem_spelled_punctuation (by decide)
  have closing {text : List Char} : text ∈ spelled ")" ↔ text = [')'] := mem_spelled_punctuation (by decide)
  simp only [Language.mem_mul, opening, closing]
  constructor
  · rintro ⟨_, ⟨_, ⟨head, member, _, rfl, rfl⟩, a, free, rfl⟩, _, rfl, rfl⟩
    exact ⟨head, a, rfl, member, free⟩
  · rintro ⟨head, a, rfl, member, free⟩
    exact ⟨_, ⟨_, ⟨head, member, _, rfl, rfl⟩, a, free, rfl⟩, _, rfl, rfl⟩

theorem denotes_letters (word : String) : Denotes (letters word) (spelled word) := by
  intro before text rest
  change _ ↔ List.Forall₂ SameLetter text word.toList
  rw [letters]
  induction word.toList generalizing before text with
  | nil => exact List.forall₂_nil_right_iff.symm
  | cons d cs ih =>
      rw [List.map_cons, takes_sequence_cons]
      constructor
      · rintro ⟨_, other, rfl, ⟨c, rfl, accepted⟩, taken⟩
        exact .cons ((accepts_single c d).mp accepted) ((ih _ _).mp taken)
      · rintro (_ | ⟨same, others⟩)
        exact ⟨_, _, rfl, ⟨_, rfl, (accepts_single _ d).mpr same⟩, (ih _ _).mpr others⟩

theorem denotes_blanks : Denotes [run blank] blanks :=
  denotes_run accepts_blank .most

theorem denotes_gaps : Denotes [run1 blank] gaps :=
  denotes_run1 accepts_blank .most

theorem denotes_names : Denotes [run1 nameChar] names :=
  denotes_run1 accepts_nameChar .most

theorem denotes_any : Denotes [run .any] (without "\n") :=
  denotes_run accepts_any .most

theorem denotes_other (chars : String) (d : Char) (only : chars.toList = [d])
    (listed : d ∈ "(),;\x7b".toList) : Denotes [run (other d)] (without chars) := by
  have accepts := accepts_other (List.all_eq_true.mp caseless_punctuation d listed)
  rw [← only] at accepts
  exact denotes_run accepts .most

theorem denotes_noneOf (chars : String) (listed : chars.toList ⊆ "(),;\x7b".toList) :
    Denotes [run (noneOf chars)] (without chars) := by
  have low : "(),;\x7b".toList.all (·.toNat ≤ basicPlaneEnd) = true := by decide
  refine denotes_run (accepts_noneOf ?_ ?_) .most
  · exact List.all_eq_true.mpr fun c member => List.all_eq_true.mp caseless_punctuation c (listed member)
  · exact List.all_eq_true.mpr fun c member => List.all_eq_true.mp low c (listed member)

/-- A run of blanks adds nothing before a run that takes blanks as well. -/
theorem blanks_mul_without {chars : String} (solid : chars.toList.any isBlank = false) :
    blanks * without chars = without chars := by
  ext text
  rw [Language.mem_mul]
  constructor
  · rintro ⟨margin, blank, other, free, rfl⟩ c member
    rcases List.mem_append.mp member with here | there
    · intro listed
      exact List.any_eq_false.mp solid c listed (blank c here)
    · exact free c there
  · intro free
    exact ⟨[], allBlank_nil, text, free, rfl⟩

theorem denotes_blanks_cons {p : Pattern} {chars : String} (h : Denotes [p] (without chars))
    (solid : chars.toList.any isBlank = false) : Denotes [run blank, p] (without chars) := by
  rw [← blanks_mul_without solid]
  exact denotes_blanks.cons h

/-- The rule with an identifier fires when one of the listed matchers does. -/
theorem exists_rule {id : String} {shapes : List Sought} (listed : sought.lookup id = some shapes) :
    ∃ rule, catalog.find? id = some rule ∧
      ∀ line : String, rule.detects line = shapes.any fun shape => shape.detects line := by
  have distinct : (sought.map Prod.fst).Nodup := by decide
  have entry : (id, shapes) ∈ sought := by
    obtain ⟨before, after, split, -⟩ := List.lookup_eq_some_iff.mp listed
    simp [split]
  obtain ⟨rule, found, member, rfl⟩ := exists_find? id (List.mem_map.mpr ⟨_, entry, rfl⟩)
  have same : rule.sought = (rule.id, shapes) :=
    List.inj_on_of_nodup_map distinct (sought_of_mem member) entry rfl
  refine ⟨rule, found, fun line => ?_⟩
  rw [Rule.detects_eq_any_sought, same]

/-- The built-in rule with this identifier fires on the lines of the language and on no others. -/
def FiresOn (id : String) (lines : Language Char) : Prop :=
  ∃ rule, catalog.find? id = some rule ∧ ∀ line : String, rule.detects line = true ↔ line.toList ∈ lines

theorem firesOn_of_lookup {id : String} {shapes : List Sought} {lines : Language Char}
    (listed : sought.lookup id = some shapes)
    (h : ∀ line : String, (shapes.any fun shape => shape.detects line) = true ↔ line.toList ∈ lines) :
    FiresOn id lines := by
  obtain ⟨rule, found, detects⟩ := exists_rule listed
  refine ⟨rule, found, fun line => ?_⟩
  rw [detects, h]

theorem firesOn_of_pattern {id : String} {pattern : Pattern} {lines : Language Char}
    (listed : sought.lookup id = some [.shape pattern])
    (h : ∀ line : List Char, pattern.search line = true ↔ line ∈ lines) : FiresOn id lines := by
  refine firesOn_of_lookup listed fun line => ?_
  simpa [Sought.detects] using h line.toList

theorem reentrancy_firesOn : FiresOn "reentrancy" (anywhere
    (spelled "msg.sender.call\x7b" * without "\n" * spelled "\x7d(" * without "\n" * spelled ")")) := by
  have shape := denotes_letters "msg.sender.call\x7b" |>.append denotes_any |>.append (denotes_letters "\x7d(")
    |>.append denotes_any |>.append (denotes_letters ")")
  exact firesOn_of_pattern rfl fun _ => shape.search_iff (by decide)

theorem arbitrarySend_firesOn : FiresOn "arbitrary-send" (anywhere
    ((spelled ".transfer" + spelled ".send") * blanks * spelled "(" * without ",)" * spelled ")" +
      spelled ".call" * blanks * spelled "\x7b" * without "\n" * spelled "value" * blanks * spelled ":")) := by
  refine firesOn_of_lookup rfl fun line => ?_
  have payment (word : String) := denotes_letters word |>.append denotes_blanks |>.append (denotes_letters "(")
    |>.append (denotes_blanks_cons (denotes_noneOf ",)" (by decide)) (by decide)) |>.append (denotes_letters ")")
  have call := denotes_letters ".call" |>.append denotes_blanks |>.append (denotes_letters "\x7b")
    |>.append denotes_any |>.append (denotes_letters "value") |>.append denotes_blanks |>.append (denotes_letters ":")
  simp only [List.any_cons, List.any_nil, Bool.or_false, Sought.detects, Bool.or_eq_true, add_mul, anywhere_add,
    Language.mem_add, or_assoc]
  exact or_congr ((payment ".transfer").search_iff (by decide))
    (or_congr ((payment ".send").search_iff (by decide)) (call.search_iff (by decide)))

theorem dosGasLimit_firesOn : FiresOn "dos-gas-limit" (anywhere
    (spelled "for" * blanks * spelled "(" * without ";" * spelled ";" * without ";" * spelled ";" * without ")" *
      spelled ")" * blanks * spelled "\x7b")) := by
  have semicolon := denotes_other ";" ';' rfl (by decide)
  have parenthesis := denotes_other ")" ')' rfl (by decide)
  have shape := denotes_letters "for" |>.append denotes_blanks |>.append (denotes_letters "(")
    |>.append semicolon |>.append (denotes_letters ";")
    |>.append (denotes_blanks_cons semicolon (by decide)) |>.append (denotes_letters ";")
    |>.append (denotes_blanks_cons parenthesis (by decide)) |>.append (denotes_letters ")")
    |>.append denotes_blanks |>.append (denotes_letters "\x7b")
  exact firesOn_of_pattern rfl fun _ => shape.search_iff (by decide)

theorem weakRandomness_firesOn : FiresOn "weak-randomness" (anywhere
    (spelled "keccak256" * blanks * spelled "(" * blanks * spelled "abi.encodePacked" * blanks * spelled "(" * blanks *
      (spelled "block.timestamp" + without "\n" * spelled "block.number"))) := by
  refine firesOn_of_lookup rfl fun line => ?_
  have start := denotes_letters "keccak256" |>.append denotes_blanks |>.append (denotes_letters "(")
    |>.append denotes_blanks |>.append (denotes_letters "abi.encodePacked") |>.append denotes_blanks
    |>.append (denotes_letters "(")
  have time := start.append denotes_blanks |>.append (denotes_letters "block.timestamp")
  have height := start.append (denotes_blanks.cons denotes_any) |>.append (denotes_letters "block.number")
  simp only [List.any_cons, List.any_nil, Bool.or_false, Sought.detects, Bool.or_eq_true, mul_add, anywhere_add,
    Language.mem_add]
  refine or_congr (time.search_iff (by decide)) ((height.search_iff (by decide)).trans ?_)
  simp only [mul_assoc]

theorem shadowing_firesOn :
    FiresOn "shadowing" (blanks * names * gaps * names * blanks * spelled "=" * anything) := by
  have shape := denotes_blanks.cons (denotes_names.cons (denotes_gaps.cons (denotes_names.cons denotes_blanks)))
    |>.append (denotes_letters "=")
  refine firesOn_of_pattern rfl fun line => (shape.search_start_iff (by decide)).trans ?_
  simp only [mul_assoc]

end Builtin

/-- Five built-in rules, by the shape of the lines that they fire on. Letters are compared without regard to case, runs
of blanks may be empty, and a text that is free of some characters may hold all others, blanks and parentheses
included. -/
theorem builtin_rules_fire_on_shapes :
    Builtin.FiresOn "reentrancy" (anywhere
      (spelled "msg.sender.call\x7b" * without "\n" * spelled "\x7d(" * without "\n" * spelled ")")) ∧
    Builtin.FiresOn "arbitrary-send" (anywhere
      ((spelled ".transfer" + spelled ".send") * blanks * spelled "(" * without ",)" * spelled ")" +
        spelled ".call" * blanks * spelled "\x7b" * without "\n" * spelled "value" * blanks * spelled ":")) ∧
    Builtin.FiresOn "dos-gas-limit" (anywhere
      (spelled "for" * blanks * spelled "(" * without ";" * spelled ";" * without ";" * spelled ";" * without ")" *
        spelled ")" * blanks * spelled "\x7b")) ∧
    Builtin.FiresOn "weak-randomness" (anywhere
      (spelled "keccak256" * blanks * spelled "(" * blanks * spelled "abi.encodePacked" * blanks * spelled "(" *
        blanks * (spelled "block.timestamp" + without "\n" * spelled "block.number"))) ∧
    Builtin.FiresOn "shadowing" (blanks * names * gaps * names * blanks * spelled "=" * anything) :=
  ⟨Builtin.reentrancy_firesOn, Builtin.arbitrarySend_firesOn, Builtin.dosGasLimit_firesOn,
    Builtin.weakRandomness_firesOn, Builtin.shadowing_firesOn⟩

end ContractScan
