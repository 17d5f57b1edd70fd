import ContractScan.Proofs.Catalog.Builtin
import ContractScan.Proofs.Pattern.Embedding
import ContractScan.Proofs.Text.Sigma

/-! # Findings in longer lines

Most built-in rules fire on a line whatever else stands on it: what they look for neither sees the text in front
of a match nor the text behind it. The exceptions are told by the checks on their patterns, and for each of them
there is a line on which more text silences the rule.
-/

namespace ContractScan

open Text

namespace Catalog

variable {catalog : Catalog} {rule : Rule} {id : String}

theorem exists_find? (member : rule ∈ catalog) : ∃ first, catalog.find? rule.id = some first :=
  Option.isSome_iff_exists.mp (List.find?_isSome.mpr ⟨rule, member, beq_self_eq_true rule.id⟩)

theorem mem_of_find? (found : catalog.find? id = some rule) : rule ∈ catalog ∧ rule.id = id := by
  have holds : (rule.id == id) = true := List.find?_some (p := fun rule : Rule => rule.id == id) found
  exact ⟨List.mem_of_find?_eq_some found, beq_iff_eq.mp holds⟩

end Catalog

namespace Sought

/-- Text in front of a line does not silence the matcher. -/
def keepsLeft : Sought → Bool
  | .text needle => Case.sigmaFree (Case.lower needle.toList)
  | .shape pattern => pattern.referenceFree && pattern.ignoresLeft false

/-- Text behind a line does not silence the matcher. -/
def keepsRight : Sought → Bool
  | .text needle => Case.sigmaFree (Case.lower needle.toList)
  | .shape pattern => pattern.referenceFree && pattern.keepsRight

theorem detects_append_left {sought : Sought} (h : sought.keepsLeft = true) (before line : String)
    (found : sought.detects line = true) : sought.detects (before ++ line) = true := by
  cases sought with
  | text needle =>
      have longer := Case.occursIn_lower_append h before.toList line.toList [] found
      rwa [List.append_nil, ← String.toList_append] at longer
  | shape pattern =>
      rw [keepsLeft, Bool.and_eq_true] at h
      rw [detects, String.toList_append]
      exact Pattern.search_append_left h.1 h.2 before.toList found

theorem detects_append_right {sought : Sought} (h : sought.keepsRight = true) (line after : String)
    (found : sought.detects line = true) : sought.detects (line ++ after) = true := by
  cases sought with
  | text needle =>
      have longer := Case.occursIn_lower_append h [] line.toList after.toList found
      rwa [List.nil_append, ← String.toList_append] at longer
  | shape pattern =>
      rw [keepsRight, Bool.and_eq_true] at h
      rw [detects, String.toList_append]
      exact Pattern.search_append_right h.1 h.2 after.toList found

end Sought

namespace Rule

variable {rule : Rule}

theorem detects_append_left (h : rule.sought.2.all Sought.keepsLeft = true) (before line : String)
    (found : rule.detects line = true) : rule.detects (before ++ line) = true := by
  rw [detects_eq_any_sought, List.any_eq_true] at found ⊢
  obtain ⟨sought, member, found⟩ := found
  exact ⟨sought, member, Sought.detects_append_left (List.all_eq_true.mp h sought member) before line found⟩

theorem detects_append_right (h : rule.sought.2.all Sought.keepsRight = true) (line after : String)
    (found : rule.detects line = true) : rule.detects (line ++ after) = true := by
  rw [detects_eq_any_sought, List.any_eq_true] at found ⊢
  obtain ⟨sought, member, found⟩ := found
  exact ⟨sought, member, Sought.detects_append_right (List.all_eq_true.mp h sought member) line after found⟩

end Rule

namespace Builtin

theorem sought_keeps : ∀ listed ∈ sought,
    (listed.1 ∉ ["shadowing", "timestamp-dependence"] → listed.2.all Sought.keepsLeft = true) ∧
    (listed.1 ∉ ["default-visibility", "unchecked-return", "timestamp-dependence"] →
      listed.2.all Sought.keepsRight = true) := by
  decide +kernel

/-- Rules, text that silences them and the line that it silences them on. -/
def silencedFromLeft : List (String × String × String) :=
  [("shadowing", "(", "a b="), ("timestamp-dependence", "x", "now")]

/-- Rules, lines on which they fire and the text that silences them there. -/
def silencedFromRight : List (String × String × String) :=
  [("default-visibility", "function f()", " public"), ("unchecked-return", ".send()", " if"),
    ("timestamp-dependence", "now", "x")]

theorem sought_silenced : ∀ listed ∈ sought,
    (∀ case ∈ silencedFromLeft, case.1 = listed.1 →
      (listed.2.any (·.detects case.2.2)) = true ∧ (listed.2.any (·.detects (case.2.1 ++ case.2.2))) = false) ∧
    ∀ case ∈ silencedFromRight, case.1 = listed.1 →
      (listed.2.any (·.detects case.2.1)) = true ∧ (listed.2.any (·.detects (case.2.1 ++ case.2.2))) = false := by
  decide +kernel

theorem exists_find? (id : String) (member : id ∈ sought.map Prod.fst) :
    ∃ rule, catalog.find? id = some rule ∧ rule ∈ catalog ∧ rule.id = id := by
  obtain ⟨listed, isListed, rfl⟩ := List.mem_map.mp member
  obtain ⟨rule, inCatalog, rfl⟩ := exists_of_mem_sought isListed
  obtain ⟨first, found⟩ := Catalog.exists_find? inCatalog
  exact ⟨first, found, Catalog.mem_of_find? found⟩

end Builtin

/-- A built-in rule that detects a line detects it with any text in front of it, except two rules that look at what
comes before, and with any text after it, except three that look at what follows. Eleven rules detect it with text on
both sides. -/
theorem builtin_detects_longer_lines :
    (∀ rule ∈ Builtin.catalog,
      ((∀ before line : String, rule.detects line = true → rule.detects (before ++ line) = true) ↔
        rule.id ∉ ["shadowing", "timestamp-dependence"]) ∧
      ((∀ line after : String, rule.detects line = true → rule.detects (line ++ after) = true) ↔
        rule.id ∉ ["default-visibility", "unchecked-return", "timestamp-dependence"])) ∧
    ∀ id ∈ ["reentrancy", "tx-origin", "integer-overflow", "delegatecall", "self-destruct", "unchecked-math",
        "arbitrary-send", "weak-randomness", "dos-gas-limit", "tx-gas-price", "assembly-usage"],
      ∃ rule, Builtin.catalog.find? id = some rule ∧ ∀ before line after : String,
        rule.detects line = true → rule.detects (before ++ line ++ after) = true := by
  constructor
  · intro rule member
    have listed := Builtin.sought_of_mem member
    have keeps := Builtin.sought_keeps rule.sought listed
    have silenced := Builtin.sought_silenced rule.sought listed
    simp only [← Rule.detects_eq_any_sought] at silenced
    constructor
    · refine ⟨fun kept exception => ?_, fun id => Rule.detects_append_left (keeps.1 id)⟩
      change rule.id ∈ Builtin.silencedFromLeft.map Prod.fst at exception
      obtain ⟨case, inTable, id⟩ := List.mem_map.mp exception
      obtain ⟨fires, silent⟩ := silenced.1 case inTable id
      exact Bool.false_ne_true (silent.symm.trans (kept _ _ fires))
    · refine ⟨fun kept exception => ?_, fun id => Rule.detects_append_right (keeps.2 id)⟩
      change rule.id ∈ Builtin.silencedFromRight.map Prod.fst at exception
      obtain ⟨case, inTable, id⟩ := List.mem_map.mp exception
      obtain ⟨fires, silent⟩ := silenced.2 case inTable id
      exact Bool.false_ne_true (silent.symm.trans (kept _ _ fires))
  · intro id member
    have named : id ∈ Builtin.sought.map Prod.fst ∧ id ∉ ["shadowing", "timestamp-dependence"] ∧
        id ∉ ["default-visibility", "unchecked-return", "timestamp-dependence"] := by
      revert id; decide
    obtain ⟨rule, found, inCatalog, rfl⟩ := Builtin.exists_find? id named.1
    have keeps := Builtin.sought_keeps rule.sought (Builtin.sought_of_mem inCatalog)
    refine ⟨rule, found, fun before line after fires => ?_⟩
    exact Rule.detects_append_right (keeps.2 named.2.2) _ after
      (Rule.detects_append_left (keeps.1 named.2.1) before line fires)

/-- Lower-casing a sigma looks at the text around it, and still `tx.origin` is found between sigmas; a visibility
in front of a function does not hide that the function has none. -/
theorem builtin_detects_longer_lines_sigma :
    (∃ rule ∈ Builtin.catalog, rule.id = "default-visibility" ∧ rule.detects "function f()" = true ∧
      rule.detects ("public Σ" ++ "function f()") = true) ∧
    ∃ rule, Builtin.catalog.find? "tx-origin" = some rule ∧ rule.detects "TX.ORIGINΣ" = true ∧
      rule.detects ("AΣ" ++ "TX.ORIGINΣ" ++ "Σ") = true := by
  have detected : ∀ listed ∈ Builtin.sought,
      (listed.1 = "default-visibility" → (listed.2.any (·.detects "function f()")) = true) ∧
      (listed.1 = "tx-origin" → (listed.2.any (·.detects "TX.ORIGINΣ")) = true) := by
    decide +kernel
  constructor
  · obtain ⟨rule, -, member, named⟩ := Builtin.exists_find? "default-visibility" (by decide)
    have fires : rule.detects "function f()" = true :=
      (Rule.detects_eq_any_sought rule _).trans ((detected _ (Builtin.sought_of_mem member)).1 named)
    exact ⟨rule, member, named, fires,
      (builtin_detects_longer_lines.1 rule member).1.mpr (by rw [named]; decide) _ _ fires⟩
  · obtain ⟨rule, found, kept⟩ := builtin_detects_longer_lines.2 "tx-origin" (by decide)
    obtain ⟨member, named⟩ := Catalog.mem_of_find? found
    have fires : rule.detects "TX.ORIGINΣ" = true :=
      (Rule.detects_eq_any_sought rule _).trans ((detected _ (Builtin.sought_of_mem member)).2 named)
    exact ⟨rule, found, fires, kept _ _ _ fires⟩

end ContractScan
