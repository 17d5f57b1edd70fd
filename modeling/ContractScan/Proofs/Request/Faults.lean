import ContractScan.Request
import Mathlib.Data.List.Basic

/-! # Faults of requests

A payload is refused for the first of its faults, in a fixed order, and answered if it has none. The answer then
follows from the code and the two options, so that no other field of the payload or of its options can change it.
-/

namespace ContractScan

theorem Json.exists_of_field?_eq_some {value found : Json} {name : String} (h : value.field? name = some found) :
    ∃ fields, value = .object fields := by
  cases value with
  | object fields => exact ⟨fields, rfl⟩
  | _ => simp [field?] at h

def ScanOptions.keys : List String :=
  ["includeInformational", "detailedReport"]

namespace Request

/-- What can be wrong with a payload. Faults do not exclude each other. -/
inductive HasFault (payload : Json) : RequestError → Prop where
  | body : (∀ fields, payload ≠ .object fields) → HasFault payload .bodyNotObject
  | code : (∀ text, payload.field? "code" ≠ some (.string text)) → HasFault payload .codeNotString
  | options {value : Json} : payload.field? "options" = some value → value ≠ .null →
      (∀ fields, value ≠ .object fields) → HasFault payload .optionsNotObject
  | option {key : String} {options value : Json} : key ∈ ScanOptions.keys →
      payload.field? "options" = some options → options.field? key = some value →
      (∀ flag, value ≠ .bool flag) → HasFault payload (.optionNotBoolean key)

/-- The place of a fault in the order in which faults are reported. -/
def faultOrder : RequestError → Nat
  | .bodyNotObject => 0
  | .codeNotString => 1
  | .optionsNotObject => 2
  | .optionNotBoolean key => 3 + ScanOptions.keys.idxOf key

/-- The fault that comes before all others of the payload. -/
def FirstFault (payload : Json) (error : RequestError) : Prop :=
  HasFault payload error ∧ ∀ other, HasFault payload other → faultOrder error ≤ faultOrder other

/-- What an option of a payload means. It is set where nothing is said about it. -/
inductive OptionIs (payload : Json) (key : String) : Bool → Prop where
  | noOptions : payload.field? "options" = none → OptionIs payload key true
  | nullOptions : payload.field? "options" = some .null → OptionIs payload key true
  | absent {fields : List (String × Json)} : payload.field? "options" = some (.object fields) →
      fields.lookup key = none → OptionIs payload key true
  | given {fields : List (String × Json)} {value : Bool} : payload.field? "options" = some (.object fields) →
      fields.lookup key = some (.bool value) → OptionIs payload key value

/-- What a payload asks for. Its other fields do not count. -/
structure Asks (payload : Json) (request : Request) : Prop where
  code : payload.field? "code" = some (.string request.code)
  includeInformational : OptionIs payload "includeInformational" request.options.includeInformational
  detailedReport : OptionIs payload "detailedReport" request.options.detailedReport

/-- No two faults of a payload have one place. -/
theorem HasFault.eq_of_order_eq {payload : Json} {error other : RequestError} (h : HasFault payload error)
    (same : faultOrder error = faultOrder other) : error = other := by
  cases h with
  | option known =>
      cases other with
      | optionNotBoolean key => rw [(List.idxOf_inj known).mp (Nat.add_left_cancel same)]
      | _ =>
          simp only [faultOrder] at same
          omega
  | _ => cases other <;> simp only [faultOrder] at * <;> omega

theorem FirstFault.unique {payload : Json} {error other : RequestError} (h : FirstFault payload error)
    (h' : FirstFault payload other) : error = other :=
  h.1.eq_of_order_eq (Nat.le_antisymm (h.2 other h'.1) (h'.2 error h.1))

section

variable {payload options : Json} {key : String} {value : Bool}

theorem OptionIs.isObject (h : OptionIs payload key value) (given : payload.field? "options" = some options)
    (notNull : options ≠ .null) : ∃ fields, options = .object fields := by
  cases h <;> grind

theorem OptionIs.eq_bool (h : OptionIs payload key value) (given : payload.field? "options" = some options)
    {found : Json} (here : options.field? key = some found) : found = .bool value := by
  cases h <;> grind [Json.field?]

end

theorem Asks.faultless {payload : Json} {request : Request} (asks : Asks payload request) (error : RequestError) :
    ¬ HasFault payload error := by
  intro fault
  cases fault with
  | body noObject =>
      obtain ⟨fields, object⟩ := Json.exists_of_field?_eq_some asks.code
      exact noObject fields object
  | code noString => exact noString _ asks.code
  | options given notNull noObject =>
      obtain ⟨fields, object⟩ := asks.includeInformational.isObject given notNull
      exact noObject fields object
  | option known given here noFlag =>
      simp only [ScanOptions.keys, List.mem_cons, List.not_mem_nil, or_false] at known
      rcases known with rfl | rfl
      · exact noFlag _ (asks.includeInformational.eq_bool given here)
      · exact noFlag _ (asks.detailedReport.eq_bool given here)

section

variable {fields options : List (String × Json)}

theorem flag_cases {payload : Json} (given : payload.field? "options" = some (.object options)) (key : String) :
    (∃ value, ScanOptions.flag options key = .ok value ∧ OptionIs payload key value) ∨
      (ScanOptions.flag options key = .error (.optionNotBoolean key) ∧
        ∃ found, options.lookup key = some found ∧ ∀ flag, found ≠ .bool flag) := by
  unfold ScanOptions.flag
  split
  · rename_i absent
    exact .inl ⟨true, rfl, .absent given absent⟩
  · rename_i value here
    exact .inl ⟨value, rfl, .given given here⟩
  · rename_i found noFlag here
    exact .inr ⟨rfl, found, here, noFlag⟩

theorem code?_cases (fields : List (String × Json)) :
    (∃ code, code? fields = .ok code ∧ fields.lookup "code" = some (.string code)) ∨
      (code? fields = .error .codeNotString ∧ ∀ text, fields.lookup "code" ≠ some (.string text)) := by
  unfold code?
  split
  · rename_i code here
    exact .inl ⟨code, rfl, here⟩
  · rename_i noString
    exact .inr ⟨rfl, noString⟩

/-- The fault that comes before all others of the payload from a place in the order on. -/
def FirstFaultFrom (least : Nat) (payload : Json) (error : RequestError) : Prop :=
  HasFault payload error ∧ ∀ other, HasFault payload other → least ≤ faultOrder other →
    faultOrder error ≤ faultOrder other

theorem FirstFaultFrom.earlier {payload : Json} {absent error : RequestError}
    (none : ¬ HasFault payload absent) (first : FirstFaultFrom (faultOrder absent + 1) payload error) :
    FirstFaultFrom (faultOrder absent) payload error := by
  refine ⟨first.1, ?_⟩
  intro other fault late
  apply first.2 other fault
  apply Nat.lt_of_le_of_ne late
  intro same
  rw [fault.eq_of_order_eq same.symm] at fault
  exact none fault

theorem ofFields_cases {payload : Json} (given : payload.field? "options" = some (.object options)) :
    (∃ chosen, ScanOptions.ofFields options = .ok chosen ∧
      OptionIs payload "includeInformational" chosen.includeInformational ∧
      OptionIs payload "detailedReport" chosen.detailedReport) ∨
    ∃ error, ScanOptions.ofFields options = .error error ∧ FirstFaultFrom 3 payload error := by
  unfold ScanOptions.ofFields
  rcases flag_cases given "includeInformational" with ⟨first, read, isFirst⟩ | ⟨refused, found, here, noFlag⟩
  · rcases flag_cases given "detailedReport" with ⟨second, read', isSecond⟩ | ⟨refused, found, here, noFlag⟩
    · rw [read, read']
      exact .inl ⟨⟨first, second⟩, rfl, isFirst, isSecond⟩
    · rw [read, refused]
      refine .inr ⟨_, rfl, .option (by simp [ScanOptions.keys]) given here noFlag, ?_⟩
      intro other fault late
      cases fault with
      | option known given' here' noFlag' =>
          -- The earlier option is in order, so the fault is that of the later one.
          simp only [ScanOptions.keys, List.mem_cons, List.not_mem_nil, or_false] at known
          rcases known with rfl | rfl
          · exact absurd (isFirst.eq_bool given' here') (noFlag' _)
          · exact Nat.le_refl _
      | _ => simp [faultOrder] at late
  · rw [refused]
    refine .inr ⟨_, rfl, .option (by simp [ScanOptions.keys]) given here noFlag, ?_⟩
    intro other fault late
    exact late

theorem options?_cases (fields : List (String × Json)) :
    (∃ chosen, options? fields = .ok chosen ∧
      OptionIs (.object fields) "includeInformational" chosen.includeInformational ∧
      OptionIs (.object fields) "detailedReport" chosen.detailedReport) ∨
    ∃ error, options? fields = .error error ∧ FirstFaultFrom 2 (.object fields) error := by
  unfold options?
  split
  · rename_i absent
    exact .inl ⟨.default, rfl, .noOptions absent, .noOptions absent⟩
  · rename_i null
    exact .inl ⟨.default, rfl, .nullOptions null, .nullOptions null⟩
  · rename_i options given
    have object : (Json.object fields).field? "options" = some (.object options) := given
    rcases ofFields_cases object with chosen | ⟨error, refused, first⟩
    · exact .inl chosen
    · have held : ¬ HasFault (.object fields) .optionsNotObject := by
        intro fault
        cases fault with
        | options given' notNull noObject => exact noObject options (Option.some.inj (given'.symm.trans given))
      exact .inr ⟨error, refused, first.earlier held⟩
  · rename_i value notNull noObject given
    refine .inr ⟨_, rfl, .options given notNull noObject, ?_⟩
    intro other fault late
    exact late

end

/-- A payload is refused for its first fault, or asks for something. -/
theorem ofJson_cases (payload : Json) :
    (∃ error, Request.ofJson payload = .error error ∧ FirstFaultFrom 0 payload error) ∨
      ∃ request, Request.ofJson payload = .ok request ∧ Asks payload request := by
  unfold Request.ofJson
  split
  · rename_i fields
    have object : ¬ HasFault (.object fields) .bodyNotObject := by
      intro fault
      cases fault with
      | body noObject => exact noObject fields rfl
    rcases code?_cases fields with ⟨code, read, here⟩ | ⟨refused, noString⟩
    · have coded : ¬ HasFault (.object fields) .codeNotString := by
        intro fault
        cases fault with
        | code noString => exact noString code here
      rcases options?_cases fields with ⟨chosen, read', isFirst, isSecond⟩ | ⟨error, refused, first⟩
      · rw [read, read']
        exact .inr ⟨⟨code, chosen⟩, rfl, here, isFirst, isSecond⟩
      · rw [read, refused]
        have fromCode := first.earlier coded
        exact .inl ⟨error, rfl, fromCode.earlier object⟩
    · have first : FirstFaultFrom 1 (.object fields) .codeNotString :=
        ⟨.code noString, fun other fault late => late⟩
      rw [refused]
      exact .inl ⟨_, rfl, first.earlier object⟩
  · rename_i noObject
    exact .inl ⟨_, rfl, .body noObject, fun other fault late => late⟩

theorem handleRequest_of_error {payload : Json} {error : RequestError} (h : Request.ofJson payload = .error error)
    (catalog : Catalog) : handleRequest catalog payload = .error error := by
  rw [handleRequest, h]
  rfl

theorem handleRequest_of_ok {payload : Json} {request : Request} (h : Request.ofJson payload = .ok request)
    (catalog : Catalog) : handleRequest catalog payload = .ok (request.respond catalog) := by
  rw [handleRequest, h]
  rfl

theorem OptionIs.unique {payload : Json} {key : String} {value other : Bool} (h : OptionIs payload key value)
    (h' : OptionIs payload key other) : value = other := by
  cases h <;> cases h' <;> grind

theorem Asks.unique {payload : Json} {request other : Request} (h : Asks payload request)
    (h' : Asks payload other) : request = other := by
  obtain ⟨code, first, second⟩ := request
  obtain ⟨code', first', second'⟩ := other
  have sameCode : code = code' := by simpa using h.code.symm.trans h'.code
  have sameFirst : first = first' := h.includeInformational.unique h'.includeInformational
  have sameSecond : second = second' := h.detailedReport.unique h'.detailedReport
  rw [sameCode, sameFirst, sameSecond]

theorem Asks.handleRequest_eq {payload : Json} {request : Request} (asks : Asks payload request)
    (catalog : Catalog) : handleRequest catalog payload = .ok (request.respond catalog) := by
  rcases ofJson_cases payload with ⟨error, refused, fault, -⟩ | ⟨other, read, asks'⟩
  · exact absurd fault (asks.faultless error)
  · rw [asks.unique asks', handleRequest_of_ok read]

end Request

open Request

/-- A payload is refused exactly if it has a fault, and for the first one. Otherwise the answer is that to the code
and the two options which it asks for, so payloads that differ elsewhere get the same answer. -/
theorem request_decided (catalog : Catalog) (payload : Json) :
    ((∃ error, handleRequest catalog payload = .error error) ↔ ∃ error, HasFault payload error) ∧
    (∀ error, handleRequest catalog payload = .error error ↔ FirstFault payload error) ∧
    ((∀ error, ¬ HasFault payload error) → ∃ request, Asks payload request ∧
      handleRequest catalog payload = .ok (request.respond catalog)) ∧
    ∀ (other : Json) (request : Request), Asks payload request → Asks other request →
      ∃ response, handleRequest catalog payload = .ok response ∧ handleRequest catalog other = .ok response := by
  have alike (other : Json) (request : Request) (asks : Asks payload request) (asks' : Asks other request) :
      ∃ response, handleRequest catalog payload = .ok response ∧ handleRequest catalog other = .ok response :=
    ⟨_, asks.handleRequest_eq catalog, asks'.handleRequest_eq catalog⟩
  rcases ofJson_cases payload with ⟨error, refused, fault, first⟩ | ⟨request, read, asks⟩
  · have answer := handleRequest_of_error refused catalog
    have firstFault : FirstFault payload error := ⟨fault, fun other h => first other h (Nat.zero_le _)⟩
    refine ⟨⟨fun _ => ⟨error, fault⟩, fun _ => ⟨error, answer⟩⟩, ?_, ?_, alike⟩
    · intro other
      rw [answer]
      constructor
      · intro same
        cases same
        exact firstFault
      · intro other
        rw [firstFault.unique other]
    · intro faultless
      exact absurd fault (faultless error)
  · have answer := handleRequest_of_ok read catalog
    refine ⟨?_, ?_, fun _ => ⟨request, asks, answer⟩, alike⟩
    · simp [answer, asks.faultless]
    · simp [answer, FirstFault, asks.faultless]

theorem request_decided_other_fields :
    let sum : Rule := ⟨"sum", "Sum", "", .high, [.substring ⟨"+=", by decide⟩], ""⟩
    let payload : Json := .object [("user", .string "a"), ("code", .string "x += 1;"),
      ("options", .object [("detailedReport", .bool false), ("lang", .null)])]
    let other : Json := .object [("options", .object [("includeInformational", .bool true),
      ("detailedReport", .bool false)]), ("code", .string "x += 1;")]
    let request : Request := ⟨"x += 1;", true, false⟩
    Asks payload request ∧ Asks other request ∧
      ∃ response, handleRequest [sum] payload = .ok response ∧ handleRequest [sum] other = .ok response := by
  intro sum payload other request
  have asks : Asks payload request := ⟨rfl, .absent rfl rfl, .given rfl rfl⟩
  have asks' : Asks other request := ⟨rfl, .given rfl rfl, .given rfl rfl⟩
  exact ⟨asks, asks', (request_decided [sum] payload).2.2.2 other request asks asks'⟩

end ContractScan
