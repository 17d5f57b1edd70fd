import ContractScan.Proofs.Text.Lowering

/-! # Lower case of texts that are put together

The lower-case form of a text depends on what stands around it in one place only: a capital sigma is final or
not. If both small sigmas are read as the same letter, the lower-case form of two texts together is that of the
one followed by that of the other. So a text without sigma that occurs in a lowered line also occurs when more
stands around that line.
-/

namespace ContractScan.Text.Case

/-- Reads a final sigma as any other small sigma. -/
def unifySigma (c : Char) : Char :=
  if c = 'ς' then 'σ' else c

/-- The text has no small sigma of either form. -/
def sigmaFree (text : List Char) : Bool :=
  text.all fun c => c ≠ 'σ' && c ≠ 'ς'

theorem map_unifySigma_lowerAt (before before' : List Char) (c : Char) (rest rest' : List Char) :
    (lowerAt before c rest).map unifySigma = (lowerAt before' c rest').map unifySigma := by
  have same (before rest : List Char) : unifySigma (lowerSigma before rest) = 'σ' := by
    unfold lowerSigma
    split <;> rfl
  unfold lowerAt
  split
  · simp [same]
  · rfl

theorem map_unifySigma_lowerFrom (before before' text rest : List Char) :
    (lowerFrom before (text ++ rest)).map unifySigma =
      (lowerFrom before' text).map unifySigma ++ (lowerFrom (text.reverse ++ before) rest).map unifySigma := by
  induction text generalizing before before' with
  | nil => rfl
  | cons c text ih =>
      simp only [List.cons_append, lowerFrom, List.map_append]
      rw [ih (c :: before) (c :: before'), map_unifySigma_lowerAt before before' c (text ++ rest) text]
      simp

theorem map_unifySigma_lowerFrom_eq (before before' text : List Char) :
    (lowerFrom before text).map unifySigma = (lowerFrom before' text).map unifySigma := by
  simpa [lowerFrom] using map_unifySigma_lowerFrom before before' text []

theorem map_unifySigma_lower_append (text other : List Char) :
    (lower (text ++ other)).map unifySigma =
      (lower text).map unifySigma ++ (lower other).map unifySigma := by
  unfold lower
  rw [map_unifySigma_lowerFrom [] [] text other, map_unifySigma_lowerFrom_eq _ [] other]

theorem unifySigma_eq_iff {c d : Char} (h : d ≠ 'σ' ∧ d ≠ 'ς') : unifySigma c = d ↔ c = d := by
  unfold unifySigma
  split
  · rename_i final
    subst final
    exact ⟨fun same => absurd same.symm h.1, fun same => absurd same.symm h.2⟩
  · rfl

theorem map_unifySigma_eq_iff {needle text : List Char} (free : sigmaFree needle = true) :
    text.map unifySigma = needle ↔ text = needle := by
  induction text generalizing needle with
  | nil => rfl
  | cons c text ih =>
      cases needle with
      | nil => simp
      | cons d needle =>
          simp only [sigmaFree, List.all_cons, Bool.and_eq_true, decide_eq_true_eq] at free
          rw [List.map_cons, List.cons.injEq, List.cons.injEq, unifySigma_eq_iff free.1, ih free.2]

theorem infix_map_unifySigma {needle text : List Char} (free : sigmaFree needle = true) :
    needle <:+: text.map unifySigma ↔ needle <:+: text := by
  constructor
  · rintro ⟨left, right, split⟩
    obtain ⟨start, last, rfl, begun, -⟩ := List.map_eq_append_iff.mp split.symm
    obtain ⟨first, middle, rfl, -, same⟩ := List.map_eq_append_iff.mp begun
    rw [map_unifySigma_eq_iff free] at same
    exact ⟨first, last, by rw [same]⟩
  · intro occurs
    rw [← (map_unifySigma_eq_iff free).mpr rfl]
    exact occurs.map unifySigma

/-- A text without sigma is not lost in a longer line. -/
theorem occursIn_lower_append {needle : List Char} (free : sigmaFree needle = true) (before line after : List Char)
    (found : occursIn needle (lower line) = true) :
    occursIn needle (lower (before ++ line ++ after)) = true := by
  rw [occursIn_iff, ← infix_map_unifySigma free] at found ⊢
  rw [map_unifySigma_lower_append, map_unifySigma_lower_append]
  exact found.trans ⟨_, _, rfl⟩

end ContractScan.Text.Case
