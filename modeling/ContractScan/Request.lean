import ContractScan.Options

/-!
# Requests

Callers such as a web endpoint send a JSON object with the code to scan and, if they like, options. The
answer lists the findings with a summary.
-/

namespace ContractScan

open Text

/-- Why a request is refused. -/
inductive RequestError where
  | bodyNotObject
  | codeNotString
  | optionsNotObject
  | optionNotBoolean (key : String)
  deriving Repr, DecidableEq

def RequestError.message : RequestError → String
  | .bodyNotObject => "Request body must be an object"
  | .codeNotString => "Field 'code' is required and must be a string"
  | .optionsNotObject => "Field 'options' must be an object"
  | .optionNotBoolean key => "Option " ++ quoted key ++ " must be a boolean"

/-- The flag under a key, which is set if the key is absent. -/
def ScanOptions.flag (fields : List (String × Json)) (key : String) : Except RequestError Bool :=
  match fields.lookup key with
  | none => .ok true
  | some (.bool value) => .ok value
  | some _ => .error (.optionNotBoolean key)

/-- The options in the fields of an object. -/
def ScanOptions.ofFields (fields : List (String × Json)) : Except RequestError ScanOptions := do
  let includeInformational ← ScanOptions.flag fields "includeInformational"
  let detailedReport ← ScanOptions.flag fields "detailedReport"
  return ⟨includeInformational, detailedReport⟩

/-- A request that has been checked. -/
structure Request where
  code : String
  options : ScanOptions
  deriving Repr, DecidableEq

/-- The code in the fields of a request. -/
def Request.code? (fields : List (String × Json)) : Except RequestError String :=
  match fields.lookup "code" with
  | some (.string code) => .ok code
  | _ => .error .codeNotString

/-- The options in the fields of a request; absent or null they are the default. -/
def Request.options? (fields : List (String × Json)) : Except RequestError ScanOptions :=
  match fields.lookup "options" with
  | none => .ok .default
  | some .null => .ok .default
  | some (.object options) => ScanOptions.ofFields options
  | some _ => .error .optionsNotObject

def Request.ofJson : Json → Except RequestError Request
  | .object fields => do
    let code ← Request.code? fields
    let options ← Request.options? fields
    return ⟨code, options⟩
  | _ => .error .bodyNotObject

/-- A finding as a response tells it. -/
structure ResponseEntry where
  finding : Finding
  /-- With the description and the suggestion of the rule. -/
  detailed : Bool
  deriving DecidableEq

/-- The fields that name the weakness of a rule. -/
def Rule.toBriefJson (rule : Rule) : List (String × Json) :=
  [("id", .string rule.id), ("name", .string rule.name), ("severity", .string rule.severity.label)]

/-- The finding, with the weakness in full or in brief. -/
def ResponseEntry.toJson (entry : ResponseEntry) : Json :=
  if entry.detailed then entry.finding.toJson
  else .object [("lineNumber", .int entry.finding.line), ("code", .string entry.finding.code),
    ("vulnerability", .object entry.finding.rule.toBriefJson)]

structure Response where
  results : List ResponseEntry
  summary : Summary
  deriving DecidableEq

def Response.toJson (response : Response) : Json :=
  .object [("results", .array (response.results.map ResponseEntry.toJson)),
    ("summary", response.summary.toJson)]

def Request.respond (catalog : Catalog) (request : Request) : Response :=
  let report := analyze catalog request.options request.code
  ⟨report.findings.map fun finding => ⟨finding, request.options.detailedReport⟩, report.summary⟩

/-- Checks a payload and answers it. -/
def handleRequest (catalog : Catalog) (payload : Json) : Except RequestError Response := do
  return (← Request.ofJson payload).respond catalog

end ContractScan
