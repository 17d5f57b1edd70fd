import ContractScan.Proofs.Text.Lines
import ContractScan.Text.Case.Lower
import ContractScan.Text.Word

/-! # The case of ASCII letters

`Char.toLower` and `String.toLower` change capital ASCII letters and nothing else. No table tells such a letter from
its small form: both have the same small letter, both are word characters and both are cased. So a text and the text
with small ASCII letters have the same lower-case form, also where a capital sigma looks at the letters around it.
-/

namespace ContractScan.Text

/-- Code points of the capital ASCII letters; the small letters stand 32 places later. -/
def asciiCapitals : List Nat :=
  List.range' 0x41 26

theorem toLower_cases (c : Char) :
    c.toLower = c ∨ c.toNat ∈ asciiCapitals ∧ c.toLower.toNat = c.toNat + 32 := by
  by_cases capital : c.val ≥ 'A'.val ∧ c.val ≤ 'Z'.val
  · right
    have first : 65 ≤ c.toNat := UInt32.le_iff_toNat_le.mp capital.1
    have last : c.toNat ≤ 90 := UInt32.le_iff_toNat_le.mp capital.2
    have moved : c.toLower.toNat = (c.val + 32).toNat := congrArg Char.toNat (dif_pos capital)
    refine ⟨List.mem_range'_1.mpr (by omega), ?_⟩
    rw [moved, UInt32.toNat_add, Nat.mod_eq_of_lt]
    · rfl
    · change c.toNat + 32 < 4294967296
      omega
  · left
    exact dif_neg capital

/-- What is the same for the two cases of every ASCII letter is the same for a character and its small form. -/
theorem apply_toLower {α : Type} {f : Nat → α} (h : ∀ code ∈ asciiCapitals, f (code + 32) = f code) (c : Char) :
    f c.toLower.toNat = f c.toNat := by
  rcases toLower_cases c with same | ⟨capital, moved⟩
  · rw [same]
  · rw [moved, h _ capital]

/-- No table tells the two cases of an ASCII letter apart. -/
theorem asciiCapitals_alike : ∀ code ∈ asciiCapitals, isWord (code + 32) = isWord code ∧
    isBlankCode (code + 32) = isBlankCode code ∧ Case.lowerCode (code + 32) = Case.lowerCode code ∧
    Case.isCaseIgnorable (code + 32) = Case.isCaseIgnorable code ∧ Case.isCased (code + 32) = Case.isCased code := by
  decide +kernel

theorem isWord_toLower (c : Char) : isWord c.toLower.toNat = isWord c.toNat :=
  apply_toLower (fun code capital => (asciiCapitals_alike code capital).1) c

theorem isBlank_toLower (c : Char) : isBlank c.toLower = isBlank c :=
  apply_toLower (f := isBlankCode) (fun code capital => (asciiCapitals_alike code capital).2.1) c

theorem toLower_eq_iff {c d : Char} (other : ∀ code ∈ asciiCapitals, d.toNat ≠ code ∧ d.toNat ≠ code + 32) :
    c.toLower = d ↔ c = d := by
  rw [← Char.toNat_inj, ← Char.toNat_inj]
  rcases toLower_cases c with same | ⟨capital, moved⟩
  · rw [same]
  · obtain ⟨ne, ne'⟩ := other _ capital
    rw [moved]
    exact iff_of_false (Ne.symm ne') (Ne.symm ne)

namespace Case

theorem lowerCode_toLower (c : Char) : lowerCode c.toLower.toNat = lowerCode c.toNat :=
  apply_toLower (fun code capital => (asciiCapitals_alike code capital).2.2.1) c

theorem meetsCased_toLower (cs : List Char) : meetsCased (cs.map Char.toLower) = meetsCased cs := by
  have ignorable (c : Char) : isCaseIgnorable c.toLower.toNat = isCaseIgnorable c.toNat :=
    apply_toLower (fun code capital => (asciiCapitals_alike code capital).2.2.2.1) c
  have cased (c : Char) : isCased c.toLower.toNat = isCased c.toNat :=
    apply_toLower (fun code capital => (asciiCapitals_alike code capital).2.2.2.2) c
  unfold meetsCased
  rw [List.dropWhile_map]
  simp only [Function.comp_def, ignorable]
  cases cs.dropWhile fun c => isCaseIgnorable c.toNat with
  | nil => rfl
  | cons c others => exact cased c

theorem lowerAt_toLower (before : List Char) (c : Char) (rest : List Char) :
    lowerAt (before.map Char.toLower) c.toLower (rest.map Char.toLower) = lowerAt before c rest := by
  have sigma : c.toLower = 'Σ' ↔ c = 'Σ' := toLower_eq_iff (by decide)
  have dotted : c.toLower = 'İ' ↔ c = 'İ' := toLower_eq_iff (by decide)
  simp only [lowerAt, lowerSigma, meetsCased_toLower, lowerCode_toLower, sigma, dotted]

theorem lowerFrom_toLower (before text : List Char) :
    lowerFrom (before.map Char.toLower) (text.map Char.toLower) = lowerFrom before text := by
  induction text generalizing before with
  | nil => rfl
  | cons c text ih => rw [List.map_cons, lowerFrom, lowerFrom, lowerAt_toLower, ← List.map_cons, ih]

theorem lower_toLower (text : List Char) : lower (text.map Char.toLower) = lower text :=
  lowerFrom_toLower [] text

end Case

theorem splitOn_toLower (text : List Char) :
    (text.map Char.toLower).splitOn '\n' = (text.splitOn '\n').map (List.map Char.toLower) := by
  induction text with
  | nil => rfl
  | cons c rest ih =>
      have feed : c.toLower = '\n' ↔ c = '\n' := toLower_eq_iff (by decide)
      by_cases h : c = '\n'
      · subst h
        rw [List.map_cons, feed.mpr rfl, splitOn_feed, splitOn_feed, ih, List.map_cons, List.map_nil]
      · rw [List.map_cons, splitOn_char (mt feed.mp h), splitOn_char h, ih]
        cases rest.splitOn '\n' <;> rfl

theorem toList_toLower (text : String) : text.toLower.toList = text.toList.map Char.toLower :=
  String.toList_map

theorem toLower_inj {s t : String} :
    s.toLower = t.toLower ↔ s.toList.map Char.toLower = t.toList.map Char.toLower := by
  rw [← toList_toLower, ← toList_toLower, String.toList_inj]

theorem lines_toLower (text : String) : lines text.toLower = (lines text).map String.toLower := by
  have small (line : List Char) : String.ofList (line.map Char.toLower) = (String.ofList line).toLower :=
    String.toList_inj.mp (by rw [String.toList_ofList, toList_toLower, String.toList_ofList])
  rw [lines, toList_toLower, splitOn_toLower, List.map_map, lines, List.map_map]
  exact List.map_congr_left fun line _ => small line

theorem isAllBlank_toLower (text : String) : isAllBlank text.toLower = isAllBlank text := by
  simp only [isAllBlank, toList_toLower, List.all_map, Function.comp_def, isBlank_toLower]

end ContractScan.Text
