import ContractScan.Proofs.Catalog.Definition

/-! # Which catalogs can be built

Definitions are taken one by one, and the identifiers of the rules built so far are remembered. The invariant
of the loop is that these are the identifiers of the definitions passed so far, so that a fault of a
definition can be told from the definitions before it alone.
-/

namespace ContractScan

open RuleDefinition

variable {read : ExpressionReader}

theorem RuleDefinition.toRule_eq_error {taken : List String} {earlier : List RuleDefinition}
    (inv : Taken taken earlier) {definition : RuleDefinition} {fault : DefinitionFault} :
    definition.toRule read taken = .error fault ↔ FirstFault read earlier definition fault := by
  obtain ⟨rule, made, -, faultless⟩ | ⟨found, failed, first⟩ := toRule_cases inv definition
  · rw [made]
    constructor
    · intro h
      cases h
    · intro h
      exact absurd h.1 (faultless fault)
  · rw [failed]
    constructor
    · intro h
      cases h
      exact first
    · intro h
      rw [first.unique h]

theorem RuleDefinition.toRule_eq_ok {taken : List String} {earlier : List RuleDefinition}
    (inv : Taken taken earlier) {definition : RuleDefinition} {rule : Rule}
    (h : definition.toRule read taken = .ok rule) :
    definition.Carries read rule ∧ ∀ fault, ¬ HasFault read earlier definition fault := by
  obtain ⟨made, same, carries, faultless⟩ | ⟨fault, failed, -⟩ := toRule_cases inv definition
  · cases h.symm.trans same
    exact ⟨carries, faultless⟩
  · cases h.symm.trans failed

theorem RuleDefinition.Taken.nil : Taken [] [] := by
  intro id
  simp

theorem RuleDefinition.Taken.snoc {taken : List String} {earlier : List RuleDefinition}
    (inv : Taken taken earlier) {definition : RuleDefinition} {rule : Rule}
    (h : definition.id = some rule.id) : Taken (rule.id :: taken) (earlier ++ [definition]) := by
  intro id
  rw [List.mem_cons, inv id]
  simp only [List.mem_append, List.mem_singleton, or_and_right, exists_or, exists_eq_left, h,
    Option.some.injEq]
  rw [or_comm, eq_comm]

namespace Catalog

/-- The definitions are well formed, and no identifier is used twice, also not with those in `earlier`. -/
structure BuildableAfter (read : ExpressionReader) (earlier definitions : List RuleDefinition) : Prop where
  wellFormed : ∀ definition ∈ definitions, definition.WellFormed read
  fresh : ∀ definition ∈ definitions, ∀ other ∈ earlier, other.id ≠ definition.id
  distinct : definitions.Pairwise fun a b => a.id ≠ b.id

/-- The error is that of the first faulty definition: it tells its first fault, and all definitions before it
are in order. -/
def Blames (read : ExpressionReader) (earlier definitions : List RuleDefinition) (error : CatalogError) : Prop :=
  ∃ before definition after fault, definitions = before ++ definition :: after ∧
    BuildableAfter read earlier before ∧ FirstFault read (earlier ++ before) definition fault ∧
    error = ⟨definition.id.getD "?", fault⟩

theorem buildableAfter_start {definitions : List RuleDefinition} : BuildableAfter read [] definitions ↔
    (∀ definition ∈ definitions, definition.WellFormed read) ∧
      definitions.Pairwise fun a b => a.id ≠ b.id := by
  constructor
  · intro h
    exact ⟨h.wellFormed, h.distinct⟩
  · rintro ⟨good, distinct⟩
    exact ⟨good, fun _ _ _ known => (List.not_mem_nil known).elim, distinct⟩

theorem BuildableAfter.nil (earlier : List RuleDefinition) : BuildableAfter read earlier [] :=
  ⟨fun _ h => (List.not_mem_nil h).elim, fun _ h => (List.not_mem_nil h).elim, .nil⟩

theorem buildableAfter_cons {earlier definitions : List RuleDefinition} {definition : RuleDefinition} :
    BuildableAfter read earlier (definition :: definitions) ↔
      (∀ fault, ¬ HasFault read earlier definition fault) ∧
        BuildableAfter read (earlier ++ [definition]) definitions := by
  rw [faultless_iff]
  constructor
  · intro h
    obtain ⟨apart, rest⟩ := List.pairwise_cons.mp h.distinct
    refine ⟨⟨h.wellFormed _ (.head _), h.fresh _ (.head _)⟩,
      fun later member => h.wellFormed later (.tail _ member), fun later member other known => ?_, rest⟩
    rcases List.mem_append.mp known with known | known
    · exact h.fresh later (.tail _ member) other known
    · rw [List.mem_singleton.mp known]
      exact apart later member
  · rintro ⟨⟨good, fresh⟩, h⟩
    refine ⟨List.forall_mem_cons.mpr ⟨good, h.wellFormed⟩, List.forall_mem_cons.mpr ⟨fresh, ?_⟩,
      List.pairwise_cons.mpr ⟨fun later member => ?_, h.distinct⟩⟩
    · exact fun later member other known => h.fresh later member other (List.mem_append_left _ known)
    · exact h.fresh later member definition (List.mem_append_right _ (List.mem_singleton.mpr rfl))

theorem not_blames_nil (earlier : List RuleDefinition) (error : CatalogError) :
    ¬ Blames read earlier [] error := by
  rintro ⟨before, definition, after, fault, split, -⟩
  cases before <;> cases split

theorem blames_cons {earlier definitions : List RuleDefinition} {definition : RuleDefinition}
    {error : CatalogError} :
    Blames read earlier (definition :: definitions) error ↔
      (∃ fault, FirstFault read earlier definition fault ∧ error = ⟨definition.id.getD "?", fault⟩) ∨
      (∀ fault, ¬ HasFault read earlier definition fault) ∧
        Blames read (earlier ++ [definition]) definitions error := by
  constructor
  · rintro ⟨before, faulty, after, fault, split, good, first, rfl⟩
    cases before with
    | nil =>
        cases split
        rw [List.append_nil] at first
        exact .inl ⟨fault, first, rfl⟩
    | cons head before =>
        cases split
        obtain ⟨faultless, rest⟩ := buildableAfter_cons.mp good
        rw [List.append_cons] at first
        exact .inr ⟨faultless, before, faulty, after, fault, rfl, rest, first, rfl⟩
  · rintro (⟨fault, first, rfl⟩ | ⟨faultless, before, faulty, after, fault, rfl, good, first, rfl⟩)
    · refine ⟨[], definition, definitions, fault, rfl, .nil earlier, ?_, rfl⟩
      rwa [List.append_nil]
    · have sound := buildableAfter_cons.mpr ⟨faultless, good⟩
      refine ⟨definition :: before, faulty, after, fault, rfl, sound, ?_, rfl⟩
      rwa [List.append_cons]

theorem Blames.append {earlier definitions : List RuleDefinition} {error : CatalogError}
    (h : Blames read earlier definitions error) (later : List RuleDefinition) :
    Blames read earlier (definitions ++ later) error := by
  obtain ⟨before, definition, after, fault, rfl, rest⟩ := h
  exact ⟨before, definition, after ++ later, fault, by simp, rest⟩

theorem Blames.not_buildableAfter {earlier definitions : List RuleDefinition} {error : CatalogError}
    (h : Blames read earlier definitions error) : ¬ BuildableAfter read earlier definitions := by
  induction definitions generalizing earlier with
  | nil => exact absurd h (not_blames_nil earlier error)
  | cons definition definitions ih =>
      intro good
      obtain ⟨faultless, rest⟩ := buildableAfter_cons.mp good
      rcases blames_cons.mp h with ⟨fault, first, -⟩ | ⟨-, later⟩
      · exact faultless fault first.1
      · exact ih later rest

/-- A step of the loop that ends it. -/
theorem buildAfter_cons_of_error {taken : List String} {definition : RuleDefinition}
    {fault : DefinitionFault} (h : definition.toRule read taken = .error fault)
    (definitions : List RuleDefinition) :
    buildAfter read taken (definition :: definitions) = .error ⟨definition.id.getD "?", fault⟩ := by
  rw [buildAfter, h]
  rfl

/-- A step of the loop that adds a rule. -/
theorem buildAfter_cons_of_ok {taken : List String} {definition : RuleDefinition} {rule : Rule}
    (h : definition.toRule read taken = .ok rule) (definitions : List RuleDefinition) :
    buildAfter read taken (definition :: definitions) =
      (buildAfter read (rule.id :: taken) definitions).map (rule :: ·) := by
  rw [buildAfter, h]
  rfl

theorem buildAfter_eq_error {taken : List String} {earlier definitions : List RuleDefinition}
    (inv : Taken taken earlier) {error : CatalogError} :
    buildAfter read taken definitions = .error error ↔ Blames read earlier definitions error := by
  -- The induction follows the loop; each rule adds its identifier and its definition to the invariant.
  induction definitions generalizing taken earlier with
  | nil =>
      constructor
      · intro h
        cases h
      · intro h
        exact absurd h (not_blames_nil earlier error)
  | cons definition definitions ih =>
      rw [blames_cons]
      cases made : definition.toRule read taken with
      | error fault =>
          have first := (toRule_eq_error inv).mp made
          rw [buildAfter_cons_of_error made]
          constructor
          · intro h
            cases h
            exact .inl ⟨fault, first, rfl⟩
          · rintro (⟨other, same, rfl⟩ | ⟨faultless, -⟩)
            · rw [first.unique same]
            · exact absurd first.1 (faultless fault)
      | ok rule =>
          obtain ⟨carries, faultless⟩ := toRule_eq_ok inv made
          rw [buildAfter_cons_of_ok made, ← ih (inv.snoc carries.id)]
          constructor
          · intro h
            cases built : buildAfter read (rule.id :: taken) definitions with
            | error cause =>
                rw [built] at h
                cases h
                exact .inr ⟨faultless, rfl⟩
            | ok rules =>
                rw [built] at h
                cases h
          · rintro (⟨fault, first, -⟩ | ⟨-, later⟩)
            · exact absurd first.1 (faultless fault)
            · rw [later]
              rfl

theorem buildAfter_eq_ok {taken : List String} {earlier definitions : List RuleDefinition}
    (inv : Taken taken earlier) {catalog : Catalog} (h : buildAfter read taken definitions = .ok catalog) :
    List.Forall₂ (Carries read) definitions catalog ∧ BuildableAfter read earlier definitions := by
  induction definitions generalizing taken earlier catalog with
  | nil =>
      cases h
      exact ⟨.nil, .nil earlier⟩
  | cons definition definitions ih =>
      cases made : definition.toRule read taken with
      | error fault => cases (buildAfter_cons_of_error made definitions).symm.trans h
      | ok rule =>
          obtain ⟨carries, faultless⟩ := toRule_eq_ok inv made
          rw [buildAfter_cons_of_ok made] at h
          cases built : buildAfter read (rule.id :: taken) definitions with
          | error cause =>
              rw [built] at h
              cases h
          | ok rules =>
              rw [built] at h
              cases h
              obtain ⟨others, good⟩ := ih (inv.snoc carries.id) built
              exact ⟨.cons carries others, buildableAfter_cons.mpr ⟨faultless, good⟩⟩

theorem buildWith_eq_error {definitions : List RuleDefinition} {error : CatalogError} :
    buildWith read definitions = .error error ↔ Blames read [] definitions error :=
  buildAfter_eq_error .nil

theorem exists_buildWith_eq_ok {definitions : List RuleDefinition} :
    (∃ catalog, buildWith read definitions = .ok catalog) ↔ BuildableAfter read [] definitions := by
  constructor
  · rintro ⟨catalog, built⟩
    exact (buildAfter_eq_ok .nil built).2
  · intro good
    cases built : buildWith read definitions with
    | error error => exact absurd good (buildWith_eq_error.mp built).not_buildableAfter
    | ok catalog => exact ⟨catalog, rfl⟩

theorem ids_eq {definitions : List RuleDefinition} {catalog : Catalog}
    (carries : List.Forall₂ (Carries read) definitions catalog) :
    definitions.map RuleDefinition.id = catalog.map fun rule => some rule.id := by
  induction carries with
  | nil => rfl
  | cons head tail ih => rw [List.map_cons, List.map_cons, ih, head.id]

theorem ids_nodup {definitions : List RuleDefinition} {catalog : Catalog}
    (carries : List.Forall₂ (Carries read) definitions catalog)
    (distinct : definitions.Pairwise fun a b => a.id ≠ b.id) : (catalog.map Rule.id).Nodup := by
  have nodup : (definitions.map RuleDefinition.id).Nodup := List.pairwise_map.mpr distinct
  rw [ids_eq carries] at nodup
  refine List.pairwise_map.mpr ((List.pairwise_map.mp nodup).imp ?_)
  intro a b apart same
  exact apart (congrArg some same)

theorem ids_nodup_of_build {definitions : List RuleDefinition} {catalog : Catalog}
    (built : build definitions = .ok catalog) : (catalog.map Rule.id).Nodup := by
  obtain ⟨carries, good⟩ := buildAfter_eq_ok .nil built
  exact ids_nodup carries good.distinct

/-- Whatever expressions can be read: a catalog can be built exactly from definitions that are all in order, and then
has a rule for each of them; otherwise the error tells the first fault of the first faulty definition, whatever comes
after it. -/
theorem build_decides (read : ExpressionReader) (definitions : List RuleDefinition) :
    ((∃ catalog, buildWith read definitions = .ok catalog) ↔
      (∀ definition ∈ definitions, definition.WellFormed read) ∧
        definitions.Pairwise fun a b => a.id ≠ b.id) ∧
    (∀ catalog, buildWith read definitions = .ok catalog →
      List.Forall₂ (Carries read) definitions catalog ∧ (catalog.map Rule.id).Nodup) ∧
    (∀ error, buildWith read definitions = .error error ↔
      ∃ before definition after fault, definitions = before ++ definition :: after ∧
        (∀ earlier ∈ before, earlier.WellFormed read) ∧ before.Pairwise (fun a b => a.id ≠ b.id) ∧
        FirstFault read before definition fault ∧ error = ⟨definition.id.getD "?", fault⟩) ∧
    ∀ error, buildWith read definitions = .error error →
      ∀ later, buildWith read (definitions ++ later) = .error error := by
  refine ⟨exists_buildWith_eq_ok.trans buildableAfter_start, fun catalog built => ?_, fun error => ?_,
    fun error failed later => ?_⟩
  · obtain ⟨carries, good⟩ := buildAfter_eq_ok .nil built
    exact ⟨carries, ids_nodup carries good.distinct⟩
  · rw [buildWith_eq_error, Blames]
    simp only [buildableAfter_start, List.nil_append, and_assoc]
  · exact buildWith_eq_error.mpr ((buildWith_eq_error.mp failed).append later)

end Catalog

end ContractScan
