import ContractScan.Proofs.Text.AsciiCase
import ContractScan.Proofs.Text.Lowering
import ContractScan.Text.Case.Fold

/-! # Letters in all their cases and spellings

Comparison without case takes two characters for the same letter when they fold to one code point. What the tables
say about a letter is then read off the list of its spellings, which is finite: all of them are word characters, none
of them is blank, or there is just one of them, as for punctuation.
-/

namespace ContractScan.Text

/-- The two characters are the same letter, whatever its case and spelling. -/
def SameLetter (c d : Char) : Prop :=
  Case.foldCode c.toNat = Case.foldCode d.toNat

namespace Case

variable {code small : Nat}

/-- A code point stays, or the run that moves it is the one that decides. -/
theorem lookup_cases (shifts : List Shift) (code : Nat) : Shift.lookup shifts code = code ∨
    ∃ shift ∈ shifts, shift.moves code = true ∧ Shift.lookup shifts code = shift.target + (code - shift.first) := by
  induction shifts with
  | nil => exact .inl rfl
  | cons shift others ih =>
      rw [Shift.lookup]
      split
      · exact .inl rfl
      · split
        · rename_i moved
          exact .inr ⟨shift, .head _, moved, rfl⟩
        · obtain same | ⟨other, member, moved, value⟩ := ih
          · exact .inl same
          · exact .inr ⟨other, .tail _ member, moved, value⟩

theorem mem_capitals {shift : Shift} (member : shift ∈ lowerShifts) (moved : shift.moves code = true) :
    code ∈ capitals (shift.target + (code - shift.first)) := by
  refine List.mem_filterMap.mpr ⟨shift, member, ?_⟩
  have first : shift.first ≤ code := by
    simp only [Shift.moves, Bool.and_eq_true, decide_eq_true_eq] at moved
    exact moved.1.1
  simp [Shift.source?, Nat.add_sub_of_le first, moved]

theorem eq_or_mem_capitals (code : Nat) : code = lowerCode code ∨ code ∈ capitals (lowerCode code) := by
  obtain same | ⟨shift, member, moved, value⟩ := lookup_cases lowerShifts code
  · exact .inl same.symm
  · right
    rw [lowerCode, value]
    exact mem_capitals member moved

theorem spellingIn_cases (table : List (Nat × Nat)) (code : Nat) :
    spellingIn table code = code ∨ (code, spellingIn table code) ∈ table := by
  induction table with
  | nil => exact .inl rfl
  | cons entry others ih =>
      obtain ⟨second, first⟩ := entry
      rw [spellingIn]
      split
      · exact .inl rfl
      · split
        · rename_i same
          subst same
          exact .inr (.head _)
        · exact ih.imp_right (List.mem_cons_of_mem _)

theorem mem_spellings (same : foldCode code = firstSpelling small) : code ∈ spellings small := by
  refine List.mem_flatMap.mpr ⟨lowerCode code, ?_, ?_⟩
  · -- The small letter is `small` itself or another spelling of its letter.
    by_cases equal : lowerCode code = small
    · exact equal ▸ List.mem_cons_self
    · refine List.mem_cons_of_mem _ (List.mem_filter.mpr ⟨?_, bne_iff_ne.mpr equal⟩)
      rw [foldCode] at same
      rw [← same]
      rcases spellingIn_cases secondSpellings (lowerCode code) with first | second
      · exact List.mem_cons.mpr (.inl first.symm)
      · refine List.mem_cons_of_mem _ (List.mem_map.mpr ⟨_, List.mem_filter.mpr ⟨second, ?_⟩, rfl⟩)
        exact beq_self_eq_true _
  · exact List.mem_cons.mpr (eq_or_mem_capitals code)

/-! What the tables say: only one run moves ASCII letters, and few second spellings are of such a letter. -/

theorem lowerShifts_facts : ∀ shift ∈ lowerShifts, (shift.first < 128 → shift = ⟨0x41, 0x5A, 1, 0x61⟩) ∧
    97 ≤ shift.target ∧ (shift.target + (shift.last - shift.first) < 0xD800 ∨
      0xDFFF < shift.target ∧ shift.target + (shift.last - shift.first) < 0x110000) := by
  decide +kernel

theorem lowerCode_ascii : ∀ code < 128, (65 ≤ code ∧ code ≤ 90 → lowerCode code = code + 32) ∧
    (code < 65 ∨ 90 < code → lowerCode code = code) := by
  decide +kernel

theorem secondSpellings_facts : ∀ entry ∈ secondSpellings, (128 ≤ entry.1 ∧ entry.1 ≤ 0xFFFF ∧ entry.2 ≤ 0xFFFF) ∧
    firstSpelling entry.1 = entry.2 ∧ firstSpelling entry.2 = entry.2 ∧
    (entry.2 < 128 → lowerCode entry.2 = entry.2 ∧ (entry.1 = 0x131 ∨ entry.1 = 0x17F) ∧ capitals entry.1 = []) := by
  decide +kernel

theorem firstSpelling_ascii (ascii : code < 128) : firstSpelling code = code := by
  rcases spellingIn_cases secondSpellings code with same | entry
  · exact same
  · exact absurd (secondSpellings_facts _ entry).1.1 (Nat.not_le.mpr ascii)

theorem lowerCode_of_mem_capitals (ascii : code < 128) (member : code ∈ capitals small) : lowerCode code = small := by
  obtain ⟨shift, listed, source⟩ := List.mem_filterMap.mp member
  obtain ⟨⟨above, moved⟩, rfl⟩ : (shift.target ≤ small ∧ shift.moves (shift.first + (small - shift.target)) = true) ∧
      shift.first + (small - shift.target) = code := by
    simpa [Shift.source?] using source
  obtain rfl := (lowerShifts_facts shift listed).1 (by omega)
  simp only [Shift.moves, Bool.and_eq_true, decide_eq_true_eq] at moved
  dsimp only at ascii above ⊢
  rw [(lowerCode_ascii _ ascii).1 (by omega)]
  omega

theorem lowerCode_lowerCode_ascii (ascii : lowerCode code < 128) : lowerCode (lowerCode code) = lowerCode code := by
  obtain same | ⟨shift, member, -, value⟩ := lookup_cases lowerShifts code
  · have fixed : lowerCode code = code := same
    rw [fixed, fixed]
  · have bound := (lowerShifts_facts shift member).2.1
    have moved : lowerCode code = shift.target + (code - shift.first) := value
    exact (lowerCode_ascii _ ascii).2 (by omega)

/-- A spelling in ASCII is a spelling of the letter. -/
theorem foldCode_of_mem_spellings (ascii : code < 128) {other : Nat} (member : code ∈ spellings (lowerCode other)) :
    foldCode code = foldCode other := by
  obtain ⟨small, listed, spelled⟩ := List.mem_flatMap.mp member
  -- Every spelling of the small letter has the same first spelling and, in ASCII, is a small letter.
  have settled : firstSpelling small = foldCode other ∧ (small < 128 → lowerCode small = small) := by
    rcases List.mem_cons.mp listed with rfl | listed
    · exact ⟨rfl, lowerCode_lowerCode_ascii⟩
    · rcases List.mem_cons.mp (List.mem_filter.mp listed).1 with first | second
      · have place := spellingIn_cases secondSpellings (lowerCode other)
        change firstSpelling _ = _ ∨ (_, firstSpelling _) ∈ _ at place
        rw [← first] at place
        rcases place with same | entry
        · rw [same]
          exact ⟨rfl, lowerCode_lowerCode_ascii⟩
        · have facts := secondSpellings_facts _ entry
          exact ⟨facts.2.2.1.trans first, fun low => (facts.2.2.2 low).1⟩
      · obtain ⟨entry, kept, rfl⟩ := List.mem_map.mp second
        obtain ⟨entered, same⟩ := List.mem_filter.mp kept
        have facts := secondSpellings_facts _ entered
        refine ⟨facts.2.1.trans (beq_iff_eq.mp same), fun low => ?_⟩
        omega
  have lowered : lowerCode code = small := by
    rcases List.mem_cons.mp spelled with rfl | capital
    · exact settled.2 ascii
    · exact lowerCode_of_mem_capitals ascii capital
  rw [foldCode, lowered, settled.1]

end Case

/-- Two ways to compare a text with a word agree if they agree on the characters of the two. -/
theorem forall₂_congr_word {R S : Char → Char → Prop} {text word : List Char}
    (same : ∀ d ∈ word, ∀ c ∈ text, R c d ↔ S c d) : List.Forall₂ R text word ↔ List.Forall₂ S text word := by
  induction word generalizing text with
  | nil => simp
  | cons d word ih =>
      cases text with
      | nil => simp
      | cons c text =>
          rw [List.forall₂_cons, List.forall₂_cons]
          refine and_congr (same d List.mem_cons_self c List.mem_cons_self) (ih fun d listed c member => ?_)
          exact same d (List.mem_cons_of_mem _ listed) c (List.mem_cons_of_mem _ member)

variable {c d : Char}

/-- What holds of every spelling of a letter holds of every character that is that letter. -/
theorem SameLetter.apply {p : Nat → Bool} (same : SameLetter c d)
    (all : (Case.spellings (Case.lowerCode d.toNat)).all p = true) : p c.toNat = true :=
  List.all_eq_true.mp all _ (Case.mem_spellings same)

/-- The character has one case and one spelling. -/
def isCaseless (c : Char) : Bool :=
  (Case.spellings (Case.lowerCode c.toNat)).all (· == c.toNat)

theorem sameLetter_iff_eq (caseless : isCaseless d = true) : SameLetter c d ↔ c = d := by
  constructor
  · intro same
    exact Char.toNat_inj.mp (beq_iff_eq.mp (same.apply caseless))
  · rintro rfl
    rfl

/-- A blank has one case and one spelling, and none of those in ASCII is visible. -/
theorem blankCodes_alone : ∀ code ∈ blankCodes, Case.firstSpelling code = code ∧ Case.capitals code = [] ∧
    (code ≤ 0x20 ∨ 0x7F ≤ code) := by
  decide +kernel

theorem foldCode_blank (blank : isBlank c = true) : Case.foldCode c.toNat = c.toNat := by
  rw [Case.foldCode, Case.lowerCode_blank blank, (blankCodes_alone _ (mem_blankCodes blank)).1]

/-- No blank is the same letter as a visible ASCII character. -/
theorem SameLetter.not_blank (same : SameLetter c d) (visible : d.toNat ∈ List.range' 0x21 94) :
    isBlank c = false := by
  rw [Bool.eq_false_iff]
  intro blank
  have apart := (blankCodes_alone _ (mem_blankCodes blank)).2.2
  have range := List.mem_range'_1.mp visible
  have lowered := Case.lowerCode_ascii d.toNat (by omega)
  rw [SameLetter, foldCode_blank blank, Case.foldCode, Case.firstSpelling_ascii (by omega)] at same
  omega

theorem isBlankCode_lowerCode (c : Char) : isBlankCode (Case.lowerCode c.toNat) = isBlank c := by
  rw [Bool.eq_iff_iff]
  constructor
  · intro blank
    rcases Case.eq_or_mem_capitals c.toNat with same | capital
    · rwa [← same] at blank
    · rw [(blankCodes_alone _ (CodeRanges.mem_codes blank)).2.1] at capital
      cases capital
  · intro blank
    rw [Case.lowerCode_blank blank]
    exact blank

theorem lowerCode_eq_feed : Case.lowerCode c.toNat = 0xA ↔ c = '\n' := by
  constructor
  · intro feed
    have place := Case.eq_or_mem_capitals c.toNat
    rw [feed, (blankCodes_alone 0xA (by decide)).2.1] at place
    rcases place with same | capital
    · exact Char.toNat_inj.mp same
    · cases capital
  · rintro rfl
    decide

end ContractScan.Text
