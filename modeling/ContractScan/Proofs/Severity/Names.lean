import ContractScan.Proofs.Catalog.Definition
import ContractScan.Proofs.Text.Capitals

/-! # Which texts name a severity

A severity is read from a text by its name in capitals. No character expands to a part of a name, and no name has an
`S`, so the texts that name a severity are its name letter by letter in either ASCII case, with a dotless i allowed for
each `I`, and blanks around it.
-/

namespace ContractScan.Severity

open Text Text.Case

/-- The text is the name of the severity with each letter in one of its ASCII cases, or a dotless i in place of an `I`. -/
def SpelledBy (severity : Severity) (text : List Char) : Prop :=
  List.Forall₂ (fun c d => c = d ∨ c = d.toLower ∨ (c = 'ı' ∧ d = 'I')) text severity.name.toList

theorem name_injective {a b : Severity} (same : a.name = b.name) : a = b := by
  revert same
  cases a <;> cases b <;> decide

theorem isUnexpanded_name (severity : Severity) : isUnexpanded severity.name.toList = true := by
  cases severity <;> decide +kernel

theorem name_letters (severity : Severity) :
    ∀ d ∈ severity.name.toList, d.toNat ∈ asciiCapitals ∧ d ≠ 'S' := by
  have letters : (severity.name.toList.all fun d => asciiCapitals.contains d.toNat && d != 'S') = true := by
    cases severity <;> decide
  simpa using letters

theorem spelledBy_iff_upper {severity : Severity} {text : List Char} :
    severity.SpelledBy text ↔ upper text = severity.name.toList := by
  rw [upper_eq_iff (isUnexpanded_name severity)]
  refine forall₂_congr_word fun d member c _ => ?_
  obtain ⟨capital, notS⟩ := name_letters severity d member
  simp [upperChars_eq_capital capital, BecomesCapital, notS]

theorem parse?_eq_some {text : String} {severity : Severity} :
    parse? text = some severity ↔ severity.SpelledBy (trim text.toList) := by
  rw [spelledBy_iff_upper, parse?, find?_all_eq_some, beq_iff_eq, eq_comm]
  intro a b first second
  rw [beq_iff_eq] at first second
  exact name_injective (String.toList_inj.mp (first.trans second.symm))

theorem spelledBy_label_key (severity : Severity) :
    severity.SpelledBy severity.label.toList ∧ severity.SpelledBy severity.key.toList := by
  simp only [spelledBy_iff_upper]
  cases severity <;> decide +kernel

theorem isTrimmed_label_key (severity : Severity) :
    IsTrimmed severity.label.toList ∧ IsTrimmed severity.key.toList := by
  have solid : (severity.label.toList.any isBlank || severity.key.toList.any isBlank) = false := by
    cases severity <;> decide
  have trimmed {word : List Char} (none : ∀ c ∈ word, isBlank c = false) : IsTrimmed word :=
    ⟨fun c first => none c (List.mem_of_head? first), fun c last => none c (List.mem_of_getLast? last)⟩
  simp only [Bool.or_eq_false_iff, List.any_eq_false, Bool.not_eq_true] at solid
  exact ⟨trimmed solid.1, trimmed solid.2⟩

/-- A severity is read from a text exactly when the trimmed text spells its name. So it is read from its label and from
its key, whatever blanks stand around them, and no text is read as two severities. -/
theorem parse_reads_spelled_names :
    (∀ (text : String) (severity : Severity),
      parse? text = some severity ↔ severity.SpelledBy (trim text.toList)) ∧
    (∀ text : String, parse? text = none ↔ ∀ severity : Severity, ¬ severity.SpelledBy (trim text.toList)) ∧
    (∀ (severity : Severity) (u v : String), AllBlank u.toList → AllBlank v.toList →
      parse? (u ++ severity.label ++ v) = some severity ∧ parse? (u ++ severity.key ++ v) = some severity) ∧
    ∀ (text : List Char) (a b : Severity), a.SpelledBy text → b.SpelledBy text → a = b := by
  refine ⟨fun text severity => parse?_eq_some, fun text => ?_, fun severity u v before after => ?_, ?_⟩
  · simp only [Option.eq_none_iff_forall_ne_some, ne_eq, parse?_eq_some]
  · have margins (word : String) (trimmed : IsTrimmed word.toList) : trim (u ++ word ++ v).toList = word.toList := by
      rw [String.toList_append, String.toList_append, trim_between before _ after, trim_of_isTrimmed trimmed]
    have spells := spelledBy_label_key severity
    have trimmed := isTrimmed_label_key severity
    rw [parse?_eq_some, parse?_eq_some, margins _ trimmed.1, margins _ trimmed.2]
    exact spells
  · intro text a b first second
    rw [spelledBy_iff_upper] at first second
    exact name_injective (String.toList_inj.mp (first.symm.trans second))

/-- A no-break space before the word, and a blank and a line end after it. -/
theorem parse_reads_spelled_names_padded :
    AllBlank "\u00a0".toList ∧ AllBlank " \r\n".toList ∧
      parse? ("\u00a0" ++ high.label ++ " \r\n") = some high ∧
      parse? ("\u00a0" ++ high.key ++ " \r\n") = some high := by
  have before : AllBlank "\u00a0".toList := isAllBlank_iff.mp (by decide)
  have after : AllBlank " \r\n".toList := isAllBlank_iff.mp (by decide)
  exact ⟨before, after, parse_reads_spelled_names.2.2.1 high _ _ before after⟩

/-- The dotless i has the capital `I`; the ligature of `f` and `i` has capitals that no name holds. -/
example : parse? "hıGh" = some high ∧ parse? "ﬁne" = none := by decide

end ContractScan.Severity
