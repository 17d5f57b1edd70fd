import ContractScan.Proofs.Text.Trim
import ContractScan.Text.Case.Lower
import ContractScan.Text.Lines
import ContractScan.Text.Word

/-! # Lower case inside blanks

Blanks have no case, and a capital sigma does not see them: a text with blanks around it is lowered as the
text alone. So a text that neither starts nor ends with a blank occurs in a lowered line exactly when it
occurs in the trimmed line.
-/

namespace ContractScan.Text

/-- The code points of all ranges, one by one. -/
def CodeRanges.codes (ranges : CodeRanges) : List Nat :=
  ranges.flatMap fun range => List.range' range.1 (range.2 + 1 - range.1)

theorem CodeRanges.mem_codes {ranges : CodeRanges} {code : Nat} (h : ranges.contains code = true) :
    code ∈ ranges.codes := by
  induction ranges with
  | nil => cases h
  | cons range others ih =>
      rw [contains] at h
      rw [codes, List.flatMap_cons, List.mem_append, List.mem_range'_1]
      split at h
      · cases h
      · split at h
        · left
          omega
        · exact .inr (ih h)

/-- Every blank, by code point. -/
def blankCodes : List Nat := blankRanges.codes

theorem mem_blankCodes {c : Char} (h : isBlank c = true) : c.toNat ∈ blankCodes :=
  CodeRanges.mem_codes h

/-- Blanks are no part of words and have no case. -/
theorem blankCodes_plain : ∀ code ∈ blankCodes, isWord code = false ∧ Case.lowerCode code = code ∧
    Case.isCased code = false ∧ Case.isCaseIgnorable code = false := by
  decide +kernel

namespace Case

theorem lowerCode_blank {c : Char} (h : isBlank c = true) : lowerCode c.toNat = c.toNat :=
  (blankCodes_plain _ (mem_blankCodes h)).2.1

theorem meetsCased_append_blank (cs : List Char) {v : List Char} (hv : AllBlank v) :
    meetsCased (cs ++ v) = meetsCased cs := by
  have stop : meetsCased v = false := by
    cases v with
    | nil => rfl
    | cons b v =>
        obtain ⟨-, -, uncased, visible⟩ := blankCodes_plain _ (mem_blankCodes (hv b (.head _)))
        simp [meetsCased, visible, uncased]
  rw [meetsCased] at stop
  rw [meetsCased, meetsCased, List.dropWhile_append]
  cases cs.dropWhile fun c => isCaseIgnorable c.toNat with
  | nil => exact stop
  | cons c others => rfl

theorem lowerAt_blank {c : Char} (h : isBlank c = true) (before rest : List Char) :
    lowerAt before c rest = [c] := by
  rw [lowerAt, if_neg, if_neg, lowerCode_blank h, Char.ofNat_toNat]
  · rintro rfl
    exact absurd h (by decide)
  · rintro rfl
    exact absurd h (by decide)

theorem lowerAt_margins {u v : List Char} (hu : AllBlank u) (hv : AllBlank v) (before : List Char)
    (c : Char) (rest : List Char) : lowerAt (before ++ u) c (rest ++ v) = lowerAt before c rest := by
  simp only [lowerAt, lowerSigma, meetsCased_append_blank before hu, meetsCased_append_blank rest hv]

theorem lowerFrom_blank_append {u : List Char} (hu : AllBlank u) (before text : List Char) :
    lowerFrom before (u ++ text) = u ++ lowerFrom (u.reverse ++ before) text := by
  induction u generalizing before with
  | nil => rfl
  | cons b u ih =>
      rw [List.cons_append, lowerFrom, lowerAt_blank (hu b (.head _)), ih (allBlank_cons.mp hu).2]
      simp

theorem lowerFrom_margins {u v : List Char} (hu : AllBlank u) (hv : AllBlank v) (before text : List Char) :
    lowerFrom (before ++ u) (text ++ v) = lowerFrom before text ++ v := by
  induction text generalizing before with
  | nil => simpa [lowerFrom] using lowerFrom_blank_append hv (before ++ u) []
  | cons c text ih =>
      rw [List.cons_append, lowerFrom, lowerAt_margins hu hv, ← List.cons_append, ih, lowerFrom,
        List.append_assoc]

theorem lower_between {u v : List Char} (hu : AllBlank u) (code : List Char) (hv : AllBlank v) :
    lower (u ++ code ++ v) = u ++ lower code ++ v := by
  have inner := lowerFrom_margins hu.reverse hv [] code
  rw [List.nil_append] at inner
  rw [lower, List.append_assoc, lowerFrom_blank_append hu, List.append_nil, inner, lower, List.append_assoc]

end Case

theorem occursIn_iff {needle text : List Char} : occursIn needle text = true ↔ needle <:+: text := by
  induction text with
  | nil => simp [occursIn]
  | cons c rest ih => simp [occursIn, List.infix_cons_iff, ih]

theorem IsTrimmed.reverse {code : List Char} (h : IsTrimmed code) : IsTrimmed code.reverse :=
  ⟨fun c hc => h.last c (by rwa [List.head?_reverse] at hc),
    fun c hc => h.first c (by rwa [List.getLast?_reverse] at hc)⟩

theorem infix_blank_append {needle u : List Char} (h : IsTrimmed needle) (hu : AllBlank u)
    (text : List Char) : needle <:+: u ++ text ↔ needle <:+: text := by
  induction u with
  | nil => rfl
  | cons b u ih =>
      rw [List.cons_append, List.infix_cons_iff, ih (allBlank_cons.mp hu).2]
      refine or_iff_right_of_imp fun start => ?_
      cases needle with
      | nil => exact List.nil_infix
      | cons c needle =>
          obtain ⟨rfl, -⟩ := List.cons_prefix_cons.mp start
          have blank := hu c (.head _)
          rw [h.first c rfl] at blank
          cases blank

theorem infix_between {needle u v : List Char} (h : IsTrimmed needle) (hu : AllBlank u)
    (code : List Char) (hv : AllBlank v) : needle <:+: u ++ code ++ v ↔ needle <:+: code := by
  rw [List.append_assoc, infix_blank_append h hu, ← List.reverse_infix, List.reverse_append,
    infix_blank_append h.reverse hv.reverse, List.reverse_infix]

/-- Blanks around a line do not hide or show a text that is trimmed. -/
theorem occursIn_lower_between {needle u v : List Char} (h : IsTrimmed needle) (hu : AllBlank u)
    (code : List Char) (hv : AllBlank v) :
    occursIn needle (Case.lower (u ++ code ++ v)) = occursIn needle (Case.lower code) := by
  rw [Bool.eq_iff_iff, occursIn_iff, occursIn_iff, Case.lower_between hu code hv, infix_between h hu _ hv]

end ContractScan.Text
