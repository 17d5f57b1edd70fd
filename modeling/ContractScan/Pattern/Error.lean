import ContractScan.Text.Quoted

/-!
# Faults in written patterns

Why a text is not a pattern, and at which character. `Error.message` is the one place that words it.
-/

namespace ContractScan.Pattern

open Text

/-- What is wrong with a written pattern. -/
inductive Fault where
  | unterminatedGroup
  | unbalancedParenthesis
  | unterminatedComment
  | nothingToRepeat
  | multipleRepeat
  | minExceedsMax
  | tooManyRepetitions
  | unterminatedSet
  | badRange (first last : String)
  | danglingEscape
  | badEscape (written : String)
  | incompleteEscape (written : String)
  | octalTooLarge (written : String)
  | undefinedCharacterName (name : String)
  | invalidReference (index : Nat)
  | openReference
  | lookBehindReference
  | unexpectedEnd
  | unknownExtension (written : String)
  | missing (what : String)
  | unterminatedName (terminator : Char)
  | badGroupName (name : String)
  | unknownGroupName (name : String)
  | redefinedGroupName (name : String) (index earlier : Nat)
  | varyingLookBehind
  | badGroupNumber
  | manyBranches
  | unknownFlag
  | localeFlag
  | fixedFlag
  | flagOnAndOff
  | flagsNotAtStart
  /-- The flag is not known here. -/
  | unsupportedFlag (letter : Char)
  deriving Repr, DecidableEq

def Fault.message : Fault → String
  | .unterminatedGroup => "missing ), unterminated subpattern"
  | .unbalancedParenthesis => "unbalanced parenthesis"
  | .unterminatedComment => "missing ), unterminated comment"
  | .nothingToRepeat => "nothing to repeat"
  | .multipleRepeat => "multiple repeat"
  | .minExceedsMax => "min repeat greater than max repeat"
  | .tooManyRepetitions => "the repetition number is too large"
  | .unterminatedSet => "unterminated character set"
  | .badRange first last => "bad character range " ++ first ++ "-" ++ last
  | .danglingEscape => "bad escape (end of pattern)"
  | .badEscape written => "bad escape " ++ written
  | .incompleteEscape written => "incomplete escape " ++ written
  | .octalTooLarge written => "octal escape value " ++ written ++ " outside of range 0-0o377"
  | .undefinedCharacterName name => "undefined character name " ++ quoted name
  | .invalidReference index => "invalid group reference " ++ toString index
  | .openReference => "cannot refer to an open group"
  | .lookBehindReference => "cannot refer to group defined in the same lookbehind subpattern"
  | .unexpectedEnd => "unexpected end of pattern"
  | .unknownExtension written => "unknown extension " ++ written
  | .missing what => "missing " ++ what
  | .unterminatedName terminator => "missing " ++ terminator.toString ++ ", unterminated name"
  | .badGroupName name => "bad character in group name " ++ quoted name
  | .unknownGroupName name => "unknown group name " ++ quoted name
  | .redefinedGroupName name index earlier =>
    "redefinition of group name " ++ quoted name ++ " as group " ++ toString index ++
      "; was group " ++ toString earlier
  | .varyingLookBehind => "look-behind requires fixed-width pattern"
  | .badGroupNumber => "bad group number"
  | .manyBranches => "conditional backref with more than two branches"
  | .unknownFlag => "unknown flag"
  | .localeFlag => "bad inline flags: cannot use 'L' flag with a str pattern"
  | .fixedFlag => "bad inline flags: cannot turn off flags 'a', 'u' and 'L'"
  | .flagOnAndOff => "bad inline flags: flag turned on and off"
  | .flagsNotAtStart => "global flags not at the start of the expression"
  | .unsupportedFlag letter => "unsupported flag " ++ letter.toString

/-- A fault, and the character it is found at, counted from zero. A fault of the whole has no place. -/
structure Error where
  fault : Fault
  position : Option Nat
  deriving Repr, DecidableEq

/-- The line of a place, counted from one. -/
def lineNumber (source : List Char) (position : Nat) : Nat :=
  (source.take position).count '\n' + 1

/-- The column of a place, counted from one. -/
def columnNumber (source : List Char) (position : Nat) : Nat :=
  ((source.take position).reverse.takeWhile (· != '\n')).length + 1

/-- The wording of an error in a written pattern. Line and column are told when there are several lines. -/
def Error.message (error : Error) (source : List Char) : String :=
  match error.position with
  | none => error.fault.message
  | some position =>
    let place := error.fault.message ++ " at position " ++ toString position
    if source.contains '\n' then
      place ++ " (line " ++ toString (lineNumber source position) ++ ", column " ++
        toString (columnNumber source position) ++ ")"
    else place

end ContractScan.Pattern
