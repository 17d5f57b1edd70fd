import ContractScan.Proofs.CommandLine.ExitCode
import ContractScan.Proofs.Json.Reader

/-!
# The JSON document of a result

A scan with JSON output writes one document. It is read back as the JSON of the result, from which everything in
the result can be told, the matchers of the rules apart.
-/

namespace ContractScan

namespace Json

/-- Reading undoes printing. -/
theorem read?_render (value : Json) : read? (value.render ++ "\n") = some value := by
  rw [read?_eq_some_iff, String.toList_append, render, String.toList_ofList]
  exact .around (List.forall_mem_nil _) (spells_encode 0 value) (by simp [Blank, isBlank])

theorem ascii_render (value : Json) : Ascii (value.render ++ "\n").toList := by
  rw [String.toList_append, render, String.toList_ofList, ascii_append]
  exact ⟨ascii_encode 0 value, by simp⟩

end Json

/-! ## What a document tells -/

/-- The finding without the matchers of its rule. -/
def Finding.bare (finding : Finding) : Finding :=
  { finding with rule := { finding.rule with patterns := [] } }

def FileReport.bare (file : FileReport) : FileReport :=
  ⟨file.path, ⟨file.report.findings.map Finding.bare⟩⟩

def ScanResult.bare (result : ScanResult) : ScanResult :=
  ⟨result.files.map FileReport.bare, result.totalFiles⟩

/-- What a view tells of each member, it tells of the members in order. -/
theorem map_eq_map_of_imp {α β γ : Type} {view : α → β} {told : α → γ}
    (tells : ∀ {a b : α}, view a = view b → told a = told b) {left right : List α}
    (same : left.map view = right.map view) : left.map told = right.map told := by
  induction left generalizing right with
  | nil => cases right <;> simp_all
  | cons a left ih =>
      cases right with
      | nil => cases same
      | cons b right =>
          obtain ⟨first, rest⟩ := List.cons.inj same
          rw [List.map_cons, List.map_cons, tells first, ih rest]

theorem Finding.bare_eq_of_toJson {finding other : Finding} (same : finding.toJson = other.toJson) :
    finding.bare = other.bare := by
  obtain ⟨line, code, ⟨id, name, description, severity, patterns, suggestion⟩⟩ := finding
  obtain ⟨line', code', ⟨id', name', description', severity', patterns', suggestion'⟩⟩ := other
  simp only [toJson, Rule.toJson, Json.int, Json.object.injEq, Json.number.injEq, Json.string.injEq,
    List.cons.injEq, Prod.mk.injEq, Severity.label_inj] at same
  simp_all [bare]

theorem FileReport.bare_eq_of_toJson {file other : FileReport} (same : file.toJson = other.toJson) :
    file.bare = other.bare := by
  simp only [toJson, Report.toJson, Json.object.injEq, Json.string.injEq, Json.array.injEq, List.cons.injEq,
    Prod.mk.injEq, true_and] at same
  obtain ⟨path, findings, -⟩ := same
  rw [bare, bare, path, map_eq_map_of_imp Finding.bare_eq_of_toJson findings]

theorem ScanResult.bare_eq_of_toJson {result other : ScanResult} (same : result.toJson = other.toJson) :
    result.bare = other.bare := by
  simp only [toJson, Json.int, Json.object.injEq, Json.number.injEq, Json.array.injEq, List.cons.injEq,
    Prod.mk.injEq, true_and, and_true] at same
  obtain ⟨total, -, -, files⟩ := same
  rw [bare, bare, total, map_eq_map_of_imp FileReport.bare_eq_of_toJson files]

open CommandLine

/-- The document that a scan with JSON output writes is ASCII and spells the JSON of the result. The reader, which
accepts exactly what the grammar of JSON allows, recovers it, and with it the whole result. -/
theorem document_reads_back (result : ScanResult) :
    let document := result.toJson.render ++ "\n"
    (∀ c ∈ document.toList, c.toNat < 0x80) ∧
    Json.Document document.toList result.toJson ∧
    (∀ value, Json.Document document.toList value → value = result.toJson) ∧
    (∀ text value, Json.read? text = some value ↔ Json.Document text.toList value) ∧
    Json.read? document = some result.toJson ∧
    (∀ other : ScanResult, other.toJson.render ++ "\n" = document → other.bare = result.bare) ∧
    ∀ asked level scanned, asked.json = true → shownResult asked scanned.result = result →
      (conclude asked level scanned).stdout = document := by
  intro document
  have reads : Json.read? document = some result.toJson := Json.read?_render result.toJson
  refine ⟨Json.ascii_render result.toJson, Json.read?_eq_some_iff.mp reads, ?_, fun _ _ => Json.read?_eq_some_iff,
    reads, ?_, ?_⟩
  · intro value spelled
    have read := Json.read?_eq_some_iff.mpr spelled
    exact Option.some.inj (read.symm.trans reads)
  · intro other same
    have read := Json.read?_render other.toJson
    rw [same, reads] at read
    exact (ScanResult.bare_eq_of_toJson (Option.some.inj read)).symm
  · intro asked level scanned json shown
    rw [(conclude_json json level scanned).1, shown]

end ContractScan
