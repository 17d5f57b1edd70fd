import ContractScan.Catalog.Basic
import Mathlib.Data.List.Forall2

/-! # What makes a definition good or faulty

The conditions on one definition, stated without the order in which they are checked, and the order as a
number for each fault. `RuleDefinition.toRule` reports the fault that comes first in that order, and a rule
exactly when there is none. Which expressions can be read, and as what, is left to the reader.
-/

namespace ContractScan

/-- The value is this number; the flags are one and zero. -/
def SeverityValue.Equals : SeverityValue → Int → Prop
  | .number value, rank => value = rank
  | .decimal mantissa decimals _, rank => mantissa = rank * Int.ofNat (Nat.pow 10 decimals)
  | .flag value, rank => (if value then 1 else 0) = rank
  | .text _, _ => False
  | .nothing, _ => False

/-- The value is the rank of some severity. -/
def SeverityValue.IsValid (value : SeverityValue) : Prop :=
  ∃ rank : Nat, rank ≤ 4 ∧ value.Equals rank

namespace Severity

theorem rank_injective {a b : Severity} (h : a.rank = b.rank) : a = b := by
  revert h
  cases a <;> cases b <;> decide

theorem mem_all (severity : Severity) : severity ∈ all := by
  cases severity <;> decide

/-- Looking among all severities for a property that only one of them can have. -/
theorem find?_all_eq_some {p : Severity → Bool} (unique : ∀ a b, p a = true → p b = true → a = b)
    {severity : Severity} : all.find? p = some severity ↔ p severity = true := by
  constructor
  · exact List.find?_some
  · intro holds
    cases found : all.find? p with
    | none => exact absurd holds (List.find?_eq_none.mp found severity (mem_all severity))
    | some other => rw [unique other severity (List.find?_some found) holds]

theorem ofRank?_eq_some {rank : Int} {severity : Severity} :
    ofRank? rank = some severity ↔ rank = severity.rank := by
  rw [ofRank?, find?_all_eq_some]
  · rw [beq_iff_eq, eq_comm]
  · intro a b ha hb
    rw [beq_iff_eq] at ha hb
    exact rank_injective (by omega)

theorem rank_le (severity : Severity) : severity.rank ≤ 4 := by
  cases severity <;> decide

theorem exists_rank_eq {rank : Nat} (h : rank ≤ 4) : ∃ severity : Severity, severity.rank = rank :=
  match rank, h with
  | 0, _ => ⟨.critical, rfl⟩
  | 1, _ => ⟨.high, rfl⟩
  | 2, _ => ⟨.medium, rfl⟩
  | 3, _ => ⟨.low, rfl⟩
  | 4, _ => ⟨.informational, rfl⟩

end Severity

theorem SeverityValue.severity?_eq_some {value : SeverityValue} {severity : Severity} :
    value.severity? = some severity ↔ value.Equals severity.rank := by
  cases value with
  | number value => exact Severity.ofRank?_eq_some
  | decimal mantissa decimals written =>
      rw [severity?, Severity.find?_all_eq_some]
      · rw [beq_iff_eq, eq_comm]
        exact Iff.rfl
      · intro a b ha hb
        rw [beq_iff_eq] at ha hb
        have scale : 0 < Nat.pow 10 decimals := Nat.pow_pos (by decide)
        have same := Int.ofNat.inj (ha.trans hb.symm)
        exact Severity.rank_injective (Nat.eq_of_mul_eq_mul_right scale same)
  | flag value => exact Severity.ofRank?_eq_some
  | text value => simp [severity?, Equals]
  | nothing => simp [severity?, Equals]

theorem SeverityValue.isValid_iff {value : SeverityValue} :
    value.IsValid ↔ ∃ severity, value.severity? = some severity := by
  constructor
  · rintro ⟨rank, bound, equals⟩
    obtain ⟨severity, rfl⟩ := Severity.exists_rank_eq bound
    exact ⟨severity, severity?_eq_some.mpr equals⟩
  · rintro ⟨severity, found⟩
    exact ⟨severity.rank, severity.rank_le, severity?_eq_some.mp found⟩

variable {read : ExpressionReader}

namespace PatternEntry

/-- A written expression is not empty and can be read; a matcher that is ready is always fine. -/
def Compiles (read : ExpressionReader) : PatternEntry → Prop
  | .source text => text ≠ "" ∧ ∃ pattern, read text = .ok pattern
  | .ready _ => True

/-- The matcher of an entry: the expression with this source, as it is read, or the matcher that is ready. -/
def Yields (read : ExpressionReader) : PatternEntry → Matcher → Prop
  | .source text, .regex expression => expression.source = text ∧ read text = .ok expression.pattern
  | .source _, .substring _ => False
  | .ready given, matcher => matcher = given

/-- Why an entry is refused. -/
inductive Refused (read : ExpressionReader) : PatternEntry → MatcherError → Prop where
  | empty : Refused read (.source "") .emptyPattern
  | invalid {text : String} {error : Pattern.Error} (nonempty : text ≠ "") (failed : read text = .error error)
      (kept : error.fault ≠ .tooManyRepetitions) : Refused read (.source text) (.invalidPattern text error)
  | overflow {text : String} {error : Pattern.Error} (nonempty : text ≠ "") (failed : read text = .error error)
      (lost : error.fault = .tooManyRepetitions) : Refused read (.source text) .overflow

end PatternEntry

theorem Matcher.ofExpression_eq_ok {text : String} {matcher : Matcher} :
    Matcher.ofExpression read text = .ok matcher ↔ PatternEntry.Yields read (.source text) matcher := by
  constructor
  · intro h
    unfold Matcher.ofExpression at h
    split at h
    · cases h
    · split at h
      · rename_i pattern readable
        cases h
        exact ⟨rfl, readable⟩
      · cases h
  · intro h
    cases matcher with
    | substring needle => cases h
    | regex expression =>
        obtain ⟨rfl, readable⟩ := h
        unfold Matcher.ofExpression
        rw [dif_neg expression.nonempty, readable]

theorem Matcher.ofExpression_eq_error {text : String} {error : MatcherError} :
    Matcher.ofExpression read text = .error error ↔ PatternEntry.Refused read (.source text) error := by
  constructor
  · intro h
    unfold Matcher.ofExpression at h
    split at h
    · rename_i empty
      cases h
      exact empty ▸ .empty
    · rename_i nonempty
      split at h
      · cases h
      · rename_i cause failed
        cases h
        unfold MatcherError.ofPatternError
        split
        · rename_i lost
          exact .overflow nonempty failed lost
        · rename_i kept
          exact .invalid nonempty failed kept
  · intro h
    cases h with
    | empty => rfl
    | invalid nonempty failed kept =>
        unfold Matcher.ofExpression
        rw [dif_neg nonempty]
        simp only [failed, MatcherError.ofPatternError, if_neg kept]
    | overflow nonempty failed lost =>
        unfold Matcher.ofExpression
        rw [dif_neg nonempty]
        simp only [failed, MatcherError.ofPatternError, if_pos lost]

namespace PatternEntry

theorem toMatcher_eq_ok {entry : PatternEntry} {matcher : Matcher} :
    entry.toMatcher read = .ok matcher ↔ entry.Yields read matcher := by
  cases entry with
  | source text => exact Matcher.ofExpression_eq_ok
  | ready given => simp [toMatcher, Yields, eq_comm]

theorem toMatcher_eq_error {entry : PatternEntry} {error : MatcherError} :
    entry.toMatcher read = .error error ↔ entry.Refused read error := by
  cases entry with
  | source text => exact Matcher.ofExpression_eq_error
  | ready given =>
      constructor
      · intro h
        cases h
      · intro h
        cases h

theorem compiles_iff {entry : PatternEntry} :
    entry.Compiles read ↔ ∃ matcher, entry.Yields read matcher := by
  cases entry with
  | source text =>
      constructor
      · rintro ⟨nonempty, pattern, readable⟩
        exact ⟨.regex ⟨text, pattern, nonempty⟩, rfl, readable⟩
      · rintro ⟨matcher, yields⟩
        cases matcher with
        | substring needle => cases yields
        | regex expression =>
            obtain ⟨rfl, readable⟩ := yields
            exact ⟨expression.nonempty, expression.pattern, readable⟩
  | ready given => exact ⟨fun _ => ⟨given, rfl⟩, fun _ => trivial⟩

theorem Refused.not_compiles {entry : PatternEntry} {error : MatcherError} (h : entry.Refused read error) :
    ¬ entry.Compiles read := by
  intro compiles
  obtain ⟨matcher, yields⟩ := compiles_iff.mp compiles
  cases (toMatcher_eq_ok.mpr yields).symm.trans (toMatcher_eq_error.mpr h)

theorem compiles_of_yields {entries : List PatternEntry} {matchers : List Matcher}
    (h : List.Forall₂ (Yields read) entries matchers) : ∀ entry ∈ entries, entry.Compiles read := by
  induction h with
  | nil =>
      intro entry member
      cases member
  | cons yields _ ih => exact List.forall_mem_cons.mpr ⟨compiles_iff.mpr ⟨_, yields⟩, ih⟩

/-- The first entry that is refused, and why. -/
def FirstRefused (read : ExpressionReader) (entries : List PatternEntry) (error : MatcherError) : Prop :=
  ∃ before entry after, entries = before ++ entry :: after ∧
    (∀ earlier ∈ before, earlier.Compiles read) ∧ entry.Refused read error

theorem firstRefused_cons_of_compiles {entry : PatternEntry} {entries : List PatternEntry}
    {error : MatcherError} (h : entry.Compiles read) :
    FirstRefused read (entry :: entries) error ↔ FirstRefused read entries error := by
  constructor
  · rintro ⟨before, refused, after, split, fine, cause⟩
    cases before with
    | nil =>
        cases split
        exact absurd h cause.not_compiles
    | cons first before =>
        cases split
        exact ⟨before, refused, after, rfl, fun earlier member => fine earlier (.tail _ member), cause⟩
  · rintro ⟨before, refused, after, split, fine, cause⟩
    refine ⟨entry :: before, refused, after, by rw [split]; rfl, ?_, cause⟩
    exact List.forall_mem_cons.mpr ⟨h, fine⟩

theorem mapM_toMatcher_eq_ok {entries : List PatternEntry} {matchers : List Matcher} :
    entries.mapM (toMatcher read) = .ok matchers ↔ List.Forall₂ (Yields read) entries matchers := by
  induction entries generalizing matchers with
  | nil => simp [pure, Except.pure, eq_comm]
  | cons entry entries ih =>
      rw [List.mapM_cons]
      cases made : entry.toMatcher read with
      | error error =>
          constructor
          · intro h
            cases h
          · rintro (_ | ⟨yields, _⟩)
            cases made.symm.trans (toMatcher_eq_ok.mpr yields)
      | ok matcher =>
          have yields := toMatcher_eq_ok.mp made
          cases rest : entries.mapM (toMatcher read) with
          | error error =>
              constructor
              · intro h
                cases h
              · rintro (_ | ⟨_, others⟩)
                cases rest.symm.trans (ih.mpr others)
          | ok others =>
              constructor
              · intro h
                cases h
                exact .cons yields (ih.mp rest)
              · rintro (_ | ⟨yields, tail⟩)
                cases made.symm.trans (toMatcher_eq_ok.mpr yields)
                cases rest.symm.trans (ih.mpr tail)
                rfl

theorem mapM_toMatcher_eq_error {entries : List PatternEntry} {error : MatcherError} :
    entries.mapM (toMatcher read) = .error error ↔ FirstRefused read entries error := by
  induction entries with
  | nil =>
      constructor
      · intro h
        cases h
      · rintro ⟨before, _, _, split, _⟩
        cases before <;> cases split
  | cons entry entries ih =>
      rw [List.mapM_cons]
      cases made : entry.toMatcher read with
      | error cause =>
          have refused := toMatcher_eq_error.mp made
          constructor
          · intro h
            cases h
            exact ⟨[], entry, entries, rfl, fun _ member => absurd member List.not_mem_nil, refused⟩
          · rintro ⟨before, first, after, split, fine, reason⟩
            cases before with
            | nil =>
                cases split
                cases made.symm.trans (toMatcher_eq_error.mpr reason)
                rfl
            | cons head before =>
                cases split
                exact absurd (fine _ (.head _)) refused.not_compiles
      | ok matcher =>
          have compiles := compiles_iff.mpr ⟨matcher, toMatcher_eq_ok.mp made⟩
          rw [firstRefused_cons_of_compiles compiles, ← ih]
          cases entries.mapM (toMatcher read) with
          | error cause => exact Iff.rfl
          | ok others =>
              constructor <;>
              · intro h
                cases h

end PatternEntry

namespace RuleDefinition

abbrev entries (definition : RuleDefinition) : List PatternEntry :=
  PatternField.toEntries definition.patterns

/-- Everything is there and right, as far as one definition can tell. -/
structure WellFormed (read : ExpressionReader) (definition : RuleDefinition) : Prop where
  id : definition.id ≠ none
  name : definition.name ≠ none
  description : definition.description ≠ none
  severity : ∃ value, definition.severity = some value ∧ value.IsValid
  suggestion : definition.suggestion ≠ none
  somePattern : definition.entries ≠ []
  compile : ∀ entry ∈ definition.entries, entry.Compiles read

/-- The rule has exactly the parts of the definition, its matchers in the order of the entries. -/
structure Carries (read : ExpressionReader) (definition : RuleDefinition) (rule : Rule) : Prop where
  id : definition.id = some rule.id
  name : definition.name = some rule.name
  description : definition.description = some rule.description
  severity : ∃ value, definition.severity = some value ∧ value.Equals rule.severity.rank
  patterns : List.Forall₂ (PatternEntry.Yields read) definition.entries rule.patterns
  suggestion : definition.suggestion = some rule.suggestion

/-- What can be wrong with a definition that comes after the definitions in `earlier`. -/
inductive HasFault (read : ExpressionReader) (earlier : List RuleDefinition) (definition : RuleDefinition) :
    DefinitionFault → Prop where
  | missingId (h : definition.id = none) : HasFault read earlier definition (.missingField "id")
  | badPattern {error : MatcherError} (h : PatternEntry.FirstRefused read definition.entries error) :
      HasFault read earlier definition (.badPattern error)
  | missingName (h : definition.name = none) : HasFault read earlier definition (.missingField "name")
  | missingDescription (h : definition.description = none) :
      HasFault read earlier definition (.missingField "description")
  | missingSeverity (h : definition.severity = none) :
      HasFault read earlier definition (.missingField "severity")
  | invalidSeverity {value : SeverityValue} (h : definition.severity = some value)
      (invalid : ¬ value.IsValid) :
      HasFault read earlier definition (.invalidSeverity value)
  | missingSuggestion (h : definition.suggestion = none) :
      HasFault read earlier definition (.missingField "suggestion")
  | noPatterns (h : definition.entries = []) : HasFault read earlier definition .noPatterns
  | duplicateId {other : RuleDefinition} (known : other ∈ earlier) (given : definition.id ≠ none)
      (same : other.id = definition.id) : HasFault read earlier definition .duplicateId

end RuleDefinition

/-- The place of a fault in the order in which a definition is checked. -/
def DefinitionFault.stage : DefinitionFault → Nat
  | .missingField "id" => 0
  | .badPattern _ => 1
  | .missingField "name" => 2
  | .missingField "description" => 3
  | .missingField "severity" => 4
  | .invalidSeverity _ => 5
  | .missingField "suggestion" => 6
  | .noPatterns => 7
  | .duplicateId => 8
  -- No other field is required.
  | .missingField _ => 9

namespace RuleDefinition

/-- The fault that is checked first among those that the definition has. -/
def FirstFault (read : ExpressionReader) (earlier : List RuleDefinition) (definition : RuleDefinition)
    (fault : DefinitionFault) : Prop :=
  HasFault read earlier definition fault ∧
    ∀ other, HasFault read earlier definition other → fault.stage ≤ other.stage

theorem matchers_eq_ok {definition : RuleDefinition} {matchers : List Matcher} :
    definition.matchers read = .ok matchers ↔
      List.Forall₂ (PatternEntry.Yields read) definition.entries matchers := by
  rw [← PatternEntry.mapM_toMatcher_eq_ok, RuleDefinition.matchers]
  cases definition.entries.mapM (PatternEntry.toMatcher read) with
  | error error => simp [Except.mapError]
  | ok made => simp [Except.mapError]

theorem matchers_eq_error {definition : RuleDefinition} {fault : DefinitionFault} :
    definition.matchers read = .error fault ↔
      ∃ error, fault = .badPattern error ∧ PatternEntry.FirstRefused read definition.entries error := by
  simp only [← PatternEntry.mapM_toMatcher_eq_error, RuleDefinition.matchers]
  cases definition.entries.mapM (PatternEntry.toMatcher read) with
  | error error => simp [Except.mapError, eq_comm]
  | ok made => simp [Except.mapError]

theorem not_firstRefused {definition : RuleDefinition} {matchers : List Matcher}
    (h : definition.matchers read = .ok matchers) (error : MatcherError) :
    ¬ PatternEntry.FirstRefused read definition.entries error := by
  intro refused
  cases h.symm.trans (matchers_eq_error.mpr ⟨error, rfl, refused⟩)

theorem entries_eq_nil {definition : RuleDefinition} {matchers : List Matcher}
    (h : definition.matchers read = .ok matchers) : definition.entries = [] ↔ matchers = [] := by
  have same := (matchers_eq_ok.mp h).length_eq
  rw [← List.length_eq_zero_iff, ← List.length_eq_zero_iff, same]

theorem compile_iff {definition : RuleDefinition} :
    (∀ entry ∈ definition.entries, entry.Compiles read) ↔
      ∀ error, ¬ PatternEntry.FirstRefused read definition.entries error := by
  constructor
  · rintro compile error ⟨before, entry, after, split, -, refused⟩
    exact refused.not_compiles (compile entry (by simp [split]))
  · intro compiled entry member
    cases made : definition.matchers read with
    | error fault =>
        obtain ⟨error, -, refused⟩ := matchers_eq_error.mp made
        exact absurd refused (compiled error)
    | ok matchers =>
        exact PatternEntry.compiles_of_yields (matchers_eq_ok.mp made) entry member

/-- A definition without fault is well formed, and no earlier one has its identifier. -/
theorem faultless_iff {earlier : List RuleDefinition} {definition : RuleDefinition} :
    (∀ fault, ¬ HasFault read earlier definition fault) ↔
      definition.WellFormed read ∧ ∀ other ∈ earlier, other.id ≠ definition.id := by
  constructor
  · intro faultless
    have given : definition.id ≠ none := fun h => faultless _ (.missingId h)
    refine ⟨⟨given, fun h => faultless _ (.missingName h), fun h => faultless _ (.missingDescription h), ?_,
      fun h => faultless _ (.missingSuggestion h), fun h => faultless _ (.noPatterns h),
      compile_iff.mpr fun error h => faultless _ (.badPattern h)⟩,
      fun other known same => faultless _ (.duplicateId known given same)⟩
    cases hv : definition.severity with
    | none => exact absurd (.missingSeverity hv) (faultless _)
    | some value =>
        refine ⟨value, rfl, Classical.byContradiction fun invalid => ?_⟩
        exact faultless _ (.invalidSeverity hv invalid)
  · rintro ⟨good, fresh⟩ fault h
    cases h with
    | missingId h => exact good.id h
    | badPattern h => exact compile_iff.mp good.compile _ h
    | missingName h => exact good.name h
    | missingDescription h => exact good.description h
    | missingSeverity h =>
        obtain ⟨value, given, -⟩ := good.severity
        cases h.symm.trans given
    | invalidSeverity h invalid =>
        obtain ⟨value, given, valid⟩ := good.severity
        cases h.symm.trans given
        exact invalid valid
    | missingSuggestion h => exact good.suggestion h
    | noPatterns h => exact good.somePattern h
    | duplicateId known given same => exact fresh _ known same

/-- The stage determines the fault. -/
theorem HasFault.eq_of_stage_eq {earlier : List RuleDefinition} {definition : RuleDefinition}
    {a b : DefinitionFault} (ha : HasFault read earlier definition a) (hb : HasFault read earlier definition b)
    (same : a.stage = b.stage) : a = b := by
  cases ha <;> cases hb <;> simp_all [DefinitionFault.stage]
  case badPattern.badPattern _ first _ second =>
    have one := PatternEntry.mapM_toMatcher_eq_error.mpr first
    cases one.symm.trans (PatternEntry.mapM_toMatcher_eq_error.mpr second)
    rfl

theorem FirstFault.unique {earlier : List RuleDefinition} {definition : RuleDefinition}
    {a b : DefinitionFault} (ha : FirstFault read earlier definition a)
    (hb : FirstFault read earlier definition b) : a = b :=
  ha.1.eq_of_stage_eq hb.1 (Nat.le_antisymm (ha.2 b hb.1) (hb.2 a ha.1))

/-- The identifiers in `taken` are those of the definitions in `earlier`. -/
def Taken (taken : List String) (earlier : List RuleDefinition) : Prop :=
  ∀ id, id ∈ taken ↔ ∃ definition ∈ earlier, definition.id = some id

/-- One definition gives a rule that carries its parts if it has no fault, and else its first fault. -/
theorem toRule_cases {taken : List String} {earlier : List RuleDefinition} (inv : Taken taken earlier)
    (definition : RuleDefinition) :
    (∃ rule, definition.toRule read taken = .ok rule ∧ definition.Carries read rule ∧
      ∀ fault, ¬ HasFault read earlier definition fault) ∨
    ∃ fault, definition.toRule read taken = .error fault ∧ FirstFault read earlier definition fault := by
  unfold toRule
  -- One case for each check, in the order of the checks; what has been passed excludes the earlier faults.
  cases hi : definition.id with
  | none => exact .inr ⟨_, rfl, .missingId hi, fun _ _ => Nat.zero_le _⟩
  | some id =>
  cases hm : definition.matchers read with
  | error fault =>
      obtain ⟨error, rfl, refused⟩ := matchers_eq_error.mp hm
      refine .inr ⟨_, rfl, .badPattern refused, fun other h => ?_⟩
      cases h <;> simp_all [DefinitionFault.stage]
  | ok matchers =>
  have compile := not_firstRefused hm
  cases hn : definition.name with
  | none =>
      refine .inr ⟨_, rfl, .missingName hn, fun other h => ?_⟩
      cases h <;> simp_all [DefinitionFault.stage]
  | some name =>
  cases hd : definition.description with
  | none =>
      refine .inr ⟨_, rfl, .missingDescription hd, fun other h => ?_⟩
      cases h <;> simp_all [DefinitionFault.stage]
  | some description =>
  cases hv : definition.severity with
  | none =>
      refine .inr ⟨_, rfl, .missingSeverity hv, fun other h => ?_⟩
      cases h <;> simp_all [DefinitionFault.stage]
  | some value =>
  cases hs : value.severity? with
  | none =>
      have invalid : ¬ value.IsValid := by simp [SeverityValue.isValid_iff, hs]
      refine .inr ⟨.invalidSeverity value, ?_, .invalidSeverity hv invalid, fun other h => ?_⟩
      · simp [requiredSeverity, required, hs, bind, Except.bind]
      · cases h <;> simp_all [DefinitionFault.stage]
  | some severity =>
  have valid : value.IsValid := SeverityValue.isValid_iff.mpr ⟨severity, hs⟩
  cases hg : definition.suggestion with
  | none =>
      refine .inr ⟨.missingField "suggestion", ?_, .missingSuggestion hg, fun other h => ?_⟩
      · simp [requiredSeverity, required, hs, bind, Except.bind]
      · cases h <;> simp_all [DefinitionFault.stage]
  | some suggestion =>
  cases he : matchers.isEmpty with
  | true =>
      have empty := (entries_eq_nil hm).mpr (List.isEmpty_iff.mp he)
      refine .inr ⟨.noPatterns, ?_, .noPatterns empty, fun other h => ?_⟩
      · simp [requiredSeverity, required, hs, he, bind, Except.bind]
      · cases h <;> simp_all [DefinitionFault.stage]
  | false =>
  have nonempty := mt (entries_eq_nil hm).mp (by simpa using he)
  by_cases ht : id ∈ taken
  · obtain ⟨other, known, same⟩ := (inv id).mp ht
    refine .inr ⟨.duplicateId, ?_, .duplicateId known (by simp [hi]) (same.trans hi.symm), fun fault h => ?_⟩
    · simp [requiredSeverity, required, hs, he, ht, bind, Except.bind]
    · cases h <;> simp_all [DefinitionFault.stage]
  · refine .inl ⟨⟨id, name, description, severity, matchers, suggestion⟩, ?_, ?_, fun fault h => ?_⟩
    · simp [requiredSeverity, required, hs, he, ht, bind, Except.bind]
    · exact ⟨hi, hn, hd, ⟨value, hv, SeverityValue.severity?_eq_some.mp hs⟩, matchers_eq_ok.mp hm, hg⟩
    · cases h with
      | duplicateId known given same => exact ht ((inv id).mpr ⟨_, known, same.trans hi⟩)
      | _ => simp_all

end RuleDefinition

end ContractScan
