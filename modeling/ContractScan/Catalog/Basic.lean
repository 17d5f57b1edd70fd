import ContractScan.Rule

/-!
# Building catalogs

A catalog is built from definitions, any part of which may be missing or wrong. The first fault of the
first faulty definition stops the construction: rules are never left out silently.
-/

namespace ContractScan

open Text

/-- A severity as a definition gives it. -/
inductive SeverityValue where
  | number (value : Int)
  /-- The number `mantissa / 10 ^ decimals`, and how messages show it. -/
  | decimal (mantissa : Int) (decimals : Nat) (written : String)
  | flag (value : Bool)
  | text (value : String)
  | nothing
  deriving Repr, DecidableEq

namespace SeverityValue

/-- The severity of a rank; the flags count as one and zero. -/
def severity? : SeverityValue → Option Severity
  | .number value => Severity.ofRank? value
  | .decimal mantissa decimals _ =>
    Severity.all.find? fun severity => Int.ofNat (severity.rank * Nat.pow 10 decimals) == mantissa
  | .flag value => Severity.ofRank? (if value then 1 else 0)
  | .text _ => none
  | .nothing => none

/-- The value as messages show it. -/
def shown : SeverityValue → String
  | .number value => toString value
  | .decimal _ _ written => written
  | .flag value => if value then "True" else "False"
  | .text value => quoted value
  | .nothing => "None"

end SeverityValue

inductive PatternEntry where
  /-- A written pattern. -/
  | source (text : String)
  /-- A matcher that has been made before. -/
  | ready (matcher : Matcher)
  deriving DecidableEq

inductive PatternField where
  | entries (entries : List PatternEntry)
  /-- A single text, every character of which is a written pattern. -/
  | text (text : String)
  deriving DecidableEq

/-- The entries in a field; a missing field has none. -/
def PatternField.toEntries : Option PatternField → List PatternEntry
  | none => []
  | some (.entries list) => list
  | some (.text characters) => characters.toList.map fun c => .source (String.ofList [c])

/-- What is known of a rule before it is built. -/
structure RuleDefinition where
  id : Option String
  name : Option String
  description : Option String
  severity : Option SeverityValue
  patterns : Option PatternField
  suggestion : Option String
  deriving DecidableEq

/-- What is wrong with a definition. -/
inductive DefinitionFault where
  | missingField (field : String)
  | badPattern (error : MatcherError)
  | invalidSeverity (value : SeverityValue)
  | noPatterns
  | duplicateId
  deriving Repr, DecidableEq

/-- Why a catalog cannot be built. -/
structure CatalogError where
  /-- The identifier of the faulty definition, or `?` if it has none. -/
  id : String
  fault : DefinitionFault
  deriving Repr, DecidableEq

/-- The wording of the reason. An overflow is told as it is. -/
def CatalogError.message (error : CatalogError) : String :=
  let id := quoted error.id
  match error.fault with
  | .missingField field => "Malformed rule definition " ++ id ++ ": " ++ quoted field
  | .invalidSeverity value =>
    "Malformed rule definition " ++ id ++ ": " ++ value.shown ++ " is not a valid Severity"
  | .badPattern .overflow => MatcherError.overflow.message
  | .badPattern cause => "Rule " ++ id ++ ": " ++ cause.message
  | .noPatterns => "Rule " ++ id ++ " has no patterns"
  | .duplicateId => "Duplicate rule id " ++ id

def PatternEntry.toMatcher (read : ExpressionReader) : PatternEntry → Except MatcherError Matcher
  | .source text => Matcher.ofExpression read text
  | .ready matcher => .ok matcher

namespace RuleDefinition

/-- A part that has to be there. -/
def required {α : Type} (field : String) : Option α → Except DefinitionFault α
  | some value => .ok value
  | none => .error (.missingField field)

def requiredSeverity (value : Option SeverityValue) : Except DefinitionFault Severity := do
  let given ← required "severity" value
  match given.severity? with
  | some severity => .ok severity
  | none => .error (.invalidSeverity given)

/-- The matchers of a definition, in the order of its entries. -/
def matchers (read : ExpressionReader) (definition : RuleDefinition) : Except DefinitionFault (List Matcher) :=
  ((PatternField.toEntries definition.patterns).mapM (PatternEntry.toMatcher read)).mapError .badPattern

/-- The rule of a definition that comes after rules with the identifiers in `taken`. -/
def toRule (read : ExpressionReader) (definition : RuleDefinition) (taken : List String) :
    Except DefinitionFault Rule := do
  let id ← required "id" definition.id
  let matchers ← definition.matchers read
  let name ← required "name" definition.name
  let description ← required "description" definition.description
  let severity ← requiredSeverity definition.severity
  let suggestion ← required "suggestion" definition.suggestion
  if matchers.isEmpty then .error .noPatterns
  else if taken.contains id then .error .duplicateId
  else .ok ⟨id, name, description, severity, matchers, suggestion⟩

end RuleDefinition

namespace Catalog

variable (read : ExpressionReader)

/-- The rules of definitions that come after rules with the identifiers in `taken`. -/
def buildAfter (taken : List String) : List RuleDefinition → Except CatalogError Catalog
  | [] => .ok []
  | definition :: definitions => do
    let rule ← (definition.toRule read taken).mapError fun fault => ⟨definition.id.getD "?", fault⟩
    let rules ← buildAfter (rule.id :: taken) definitions
    return rule :: rules

/-- The catalog of a list of definitions, in their order. Expressions are read by `read`. -/
def buildWith (definitions : List RuleDefinition) : Except CatalogError Catalog :=
  buildAfter read [] definitions

def build (definitions : List RuleDefinition) : Except CatalogError Catalog :=
  buildWith Pattern.read definitions

end Catalog

end ContractScan
