import ContractScan.Pattern.Parser
import ContractScan.Pattern.Search
import ContractScan.Text.Lines

/-!
# Matchers

A matcher is tested against single lines: either a text that has to occur in the line, or a pattern that
has to match somewhere in it. Both disregard case.
-/

namespace ContractScan

open Text

/-- Why a matcher cannot be made. -/
inductive MatcherError where
  | emptySubstring
  | emptyPattern
  | invalidPattern (source : String) (error : Pattern.Error)
  /-- A number of repetitions is too large to be kept. This is not told as an error of a pattern. -/
  | overflow
  deriving Repr, DecidableEq

def MatcherError.message : MatcherError → String
  | .emptySubstring => "Empty substring pattern"
  | .emptyPattern => "Empty regular expression"
  | .invalidPattern source error =>
    "Invalid pattern " ++ quoted source ++ ": " ++ error.message source.toList
  | .overflow => "the repetition number is too large"

/-- The error that becomes of a fault in a written expression. -/
def MatcherError.ofPatternError (source : String) (error : Pattern.Error) : MatcherError :=
  if error.fault = .tooManyRepetitions then .overflow else .invalidPattern source error

/-- A text to be found. -/
structure Needle where
  text : String
  nonempty : text ≠ ""
  deriving DecidableEq

/-- A written expression, and the pattern that it has been read as. -/
structure Expression where
  source : String
  pattern : Pattern
  nonempty : source ≠ ""
  deriving DecidableEq

/-- A test on one line. -/
inductive Matcher where
  | substring (needle : Needle)
  | regex (expression : Expression)
  deriving DecidableEq

/-- The needle occurs in the line, both in lower case. -/
def Needle.detects (needle : Needle) (line : String) : Bool :=
  occursIn (Case.lower needle.text.toList) (Case.lower line.toList)

/-- The pattern matches somewhere in the line. -/
def Expression.detects (expression : Expression) (line : String) : Bool :=
  expression.pattern.search line.toList

/-- What makes a pattern of a written expression. -/
abbrev ExpressionReader := String → Except Pattern.Error Pattern

def Pattern.read : ExpressionReader :=
  fun source => parse source.toList

namespace Matcher

def ofSubstring (text : String) : Except MatcherError Matcher :=
  if nonempty : text = "" then .error .emptySubstring
  else .ok (.substring ⟨text, nonempty⟩)

/-- A matcher for an expression, which is read by `read`. -/
def ofExpression (read : ExpressionReader) (source : String) : Except MatcherError Matcher :=
  if nonempty : source = "" then .error .emptyPattern
  else match read source with
    | .ok pattern => .ok (.regex ⟨source, pattern, nonempty⟩)
    | .error error => .error (.ofPatternError source error)

def ofPattern (source : String) : Except MatcherError Matcher :=
  ofExpression Pattern.read source

/-- The text or the expression as written. -/
def source : Matcher → String
  | .substring needle => needle.text
  | .regex expression => expression.source

def detects : Matcher → String → Bool
  | .substring needle, line => needle.detects line
  | .regex expression, line => expression.detects line

end Matcher

end ContractScan
