import ContractScan.Proofs.Request.Faults
import ContractScan.Proofs.Scan.Composition

/-! # Options of requests

Findings are left out before a response is written, and descriptions while it is written. Read from the outside,
where only the JSON of responses is seen, both are changes of the response that is given without options: some of
its results are deleted, by the label of their severity, and the others are cut down to the fields that name the
weakness. The counts are those of the results that remain.
-/

namespace ContractScan

namespace Json

def text? : Json → Option String
  | .string value => some value
  | _ => none

/-- The object with some of its fields only. -/
def restrict (keys : List String) : Json → Json
  | .object fields => .object (fields.filter fun field => field.1 ∈ keys)
  | other => other

/-- The object with another value in one of its fields. -/
def changeField (name : String) (change : Json → Json) : Json → Json
  | .object fields => .object (fields.map fun field => if field.1 = name then (name, change field.2) else field)
  | other => other

theorem field?_restrict (keys : List String) (value : Json) (key : String) :
    (value.restrict keys).field? key = if key ∈ keys then value.field? key else none := by
  cases value with
  | object fields =>
      simp only [restrict, field?]
      induction fields with
      | nil => simp
      | cons field fields ih =>
          obtain ⟨name, inner⟩ := field
          by_cases same : key = name
          · subst same
            by_cases kept : key ∈ keys
            · simp [kept]
            · rw [List.filter_cons_of_neg (by simpa using kept), ih, if_neg kept, if_neg kept]
          · have other : (key == name) = false := beq_false_of_ne same
            rw [List.lookup_cons, other, ← ih]
            by_cases kept : name ∈ keys
            · rw [List.filter_cons_of_pos (by simpa using kept), List.lookup_cons, other]
            · rw [List.filter_cons_of_neg (by simpa using kept)]
  | _ => simp [restrict, field?]

theorem field?_changeField (name : String) (change : Json → Json) (value : Json) (key : String) :
    (value.changeField name change).field? key =
      if key = name then (value.field? name).map change else value.field? key := by
  cases value with
  | object fields =>
      simp only [changeField, field?]
      induction fields with
      | nil => simp
      | cons field fields ih =>
          obtain ⟨first, inner⟩ := field
          by_cases here : first = name <;> by_cases same : key = first
          · subst here same
            simp
          · subst here
            simp [List.lookup_cons, beq_false_of_ne same, ih, same]
          · subst same
            simp [here]
          · simp [List.lookup_cons, beq_false_of_ne same, beq_false_of_ne (Ne.symm here), ih, here]
  | _ => simp [changeField, field?]

/-- The label of the severity that a result of a response tells. -/
def severityLabel? (result : Json) : Option String :=
  ((result.field? "vulnerability").bind (field? "severity")).bind text?

/-- The result of a response with the weakness named only. -/
def brief (result : Json) : Json :=
  result.changeField "vulnerability" (restrict ["id", "name", "severity"])

end Json

theorem Finding.severityLabel?_toJson (finding : Finding) :
    finding.toJson.severityLabel? = some finding.severity.label := rfl

theorem Finding.brief_toJson (finding : Finding) :
    finding.toJson.brief = (ResponseEntry.mk finding false).toJson := rfl

theorem countP_severityLabel? (severity : Severity) (findings : List Finding) :
    (findings.map Finding.toJson).countP (fun result => result.severityLabel? = some severity.label) =
      (ofSeverity severity findings).length := by
  simp [List.countP_map, ofSeverity, ← List.countP_eq_length_filter, Function.comp_def,
    Finding.severityLabel?_toJson, Severity.label_inj]

theorem Summary.toJson_ofFindings (findings : List Finding) :
    (Summary.ofFindings findings).toJson = .object (Severity.all.map fun severity => (severity.key,
      .int ((findings.map Finding.toJson).countP fun result => result.severityLabel? = some severity.label))) := by
  simp only [Summary.toJson, Summary.count_ofFindings, countP_severityLabel?]

/-- The results that options leave, by the labels that they tell. -/
def remaining (options : ScanOptions) (results : List Json) : List Json :=
  if options.includeInformational then results
  else results.filter fun result => result.severityLabel? ≠ some "Informational"

theorem remaining_map_toJson (options : ScanOptions) (report : Report) :
    remaining options (report.findings.map Finding.toJson) =
      (options.apply report).findings.map Finding.toJson := by
  unfold remaining ScanOptions.apply
  cases options.includeInformational with
  | true => rfl
  | false =>
      have told (finding : Finding) : decide (finding.toJson.severityLabel? ≠ some "Informational") =
          (finding.severity != .informational) := by
        rw [Finding.severityLabel?_toJson]
        cases finding.severity <;> decide
      simp only [Bool.false_eq_true, if_false, Report.filter, List.filter_map, Function.comp_def, told]

/-- A response in terms of the report that it tells. -/
theorem Request.toJson_respond (catalog : Catalog) (request : Request) :
    let results := (analyze catalog request.options request.code).findings.map Finding.toJson
    (request.respond catalog).toJson = .object [
      ("results", .array (if request.options.detailedReport then results else results.map Json.brief)),
      ("summary", .object (Severity.all.map fun severity => (severity.key,
        .int (results.countP fun result => result.severityLabel? = some severity.label))))] := by
  intro results
  rw [← Summary.toJson_ofFindings]
  unfold Request.respond Response.toJson
  cases request.options.detailedReport <;> simp [results, Finding.brief_toJson, ResponseEntry.toJson, Report.summary]

open Request

/-- Options only filter or trim: with them a response is the one without options, less the results of the label that
is not wanted, each cut down to the name of its weakness if details are not wanted, and with the counts of what
remains. -/
theorem options_filter_or_trim (catalog : Catalog) (code : String) (options : ScanOptions) {plain chosen : Json}
    (asksPlain : Asks plain ⟨code, .default⟩) (asksChosen : Asks chosen ⟨code, options⟩) :
    ∃ full answer results, handleRequest catalog plain = .ok full ∧ handleRequest catalog chosen = .ok answer ∧
      full.toJson.field? "results" = some (.array results) ∧
      answer.toJson = .object [
        ("results", .array (if options.detailedReport then remaining options results
          else (remaining options results).map Json.brief)),
        ("summary", .object (Severity.all.map fun severity => (severity.key,
          .int ((remaining options results).countP fun result =>
            result.severityLabel? = some severity.label))))] ∧
      (∀ result ∈ results,
        result.brief.field? "lineNumber" = result.field? "lineNumber" ∧
        result.brief.field? "code" = result.field? "code" ∧
        ∃ weakness, result.field? "vulnerability" = some weakness ∧
          ∃ named, result.brief.field? "vulnerability" = some named ∧
            ∀ key, named.field? key = if key ∈ ["id", "name", "severity"] then weakness.field? key else none) ∧
      ∀ other detailedReport, Asks other ⟨code, { options with detailedReport }⟩ →
        ∃ answer', handleRequest catalog other = .ok answer' ∧
          answer'.toJson.field? "summary" = answer.toJson.field? "summary" := by
  refine ⟨_, _, (scan catalog code).findings.map Finding.toJson, asksPlain.handleRequest_eq catalog,
    asksChosen.handleRequest_eq catalog, ?_, ?_, ?_, ?_⟩
  · rw [Request.toJson_respond]
    rfl
  · rw [Request.toJson_respond, analyze, remaining_map_toJson]
  · intro result told
    obtain ⟨finding, -, rfl⟩ := List.mem_map.mp told
    refine ⟨?_, ?_, _, rfl, _, rfl, ?_⟩
    · simp [Json.brief, Json.field?_changeField]
    · simp [Json.brief, Json.field?_changeField]
    · intro key
      exact Json.field?_restrict _ _ key
  · intro other detailedReport asksOther
    refine ⟨_, asksOther.handleRequest_eq catalog, ?_⟩
    rw [Request.toJson_respond, Request.toJson_respond]
    rfl

theorem options_filter_or_trim_both :
    let sum : Rule := ⟨"sum", "Sum", "", .high, [.substring ⟨"+=", by decide⟩], ""⟩
    let note : Rule := ⟨"note", "Note", "", .informational, [.substring ⟨"//", by decide⟩], ""⟩
    let plain : Json := .object [("code", .string "x += 1; // y")]
    let chosen : Json := .object [("code", .string "x += 1; // y"),
      ("options", .object [("includeInformational", .bool false), ("detailedReport", .bool false)])]
    Asks plain ⟨"x += 1; // y", .default⟩ ∧ Asks chosen ⟨"x += 1; // y", false, false⟩ ∧
      ∃ full answer results, handleRequest [note, sum] plain = .ok full ∧
        handleRequest [note, sum] chosen = .ok answer ∧ full.toJson.field? "results" = some (.array results) ∧
        answer.toJson.field? "results" = some (.array
          ((results.filter fun result => result.severityLabel? ≠ some "Informational").map Json.brief)) := by
  intro sum note plain chosen
  have asksPlain : Asks plain ⟨"x += 1; // y", .default⟩ := ⟨rfl, .noOptions rfl, .noOptions rfl⟩
  have asksChosen : Asks chosen ⟨"x += 1; // y", false, false⟩ := ⟨rfl, .given rfl rfl, .given rfl rfl⟩
  obtain ⟨full, answer, results, whole, part, listed, told, -⟩ :=
    options_filter_or_trim [note, sum] _ _ asksPlain asksChosen
  exact ⟨asksPlain, asksChosen, full, answer, results, whole, part, listed, by rw [told]; rfl⟩

end ContractScan
