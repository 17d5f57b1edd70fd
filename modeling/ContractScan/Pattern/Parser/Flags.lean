import ContractScan.Pattern.Parser.Basic
import ContractScan.Text.Word

/-!
# Flags

Letters that change how a pattern is read. They stand in parentheses after a question mark: letters that are turned on,
and after a hyphen letters that are turned off. Case is disregarded in all patterns, so that the letter for it can be
turned on, which changes nothing, and not off. The same holds of the letter for characters of all scripts. Classes of
ASCII characters only, and templates, are not supported.
-/

namespace ContractScan.Pattern

/-- The flags after letters have been turned on or off. -/
def Flags.change (flags : Flags) (letters : List Char) (value : Bool) : Flags where
  multiline := if letters.contains 'm' then value else flags.multiline
  dotAll := if letters.contains 's' then value else flags.dotAll
  verbose := if letters.contains 'x' then value else flags.verbose

namespace Parser

def flagLetters : List Char := ['a', 'i', 'L', 'm', 's', 't', 'u', 'x']

/-- The letter of a flag; `expected` tells what else may stand here. -/
def flagLetter (expected : String) (token : Token) : Parser Char :=
  match token with
  | .char c =>
    if flagLetters.contains c then pure c
    else failBack 1 (if Text.isLetter c.toNat then .unknownFlag else .missing expected)
  | token => failBack token.size (.missing expected)

def turnOn (letter : Char) : Parser Char :=
  if letter = 'L' then failBack 0 .localeFlag
  else if letter = 'a' || letter = 't' then failBack 1 (.unsupportedFlag letter)
  else pure letter

def turnOff (letter : Char) : Parser Char :=
  if letter = 'a' || letter = 'u' || letter = 'L' then failBack 0 .fixedFlag
  else if letter = 'i' || letter = 't' then failBack 1 (.unsupportedFlag letter)
  else pure letter

/-- Reads more letters that are turned on, after those in `letters`, and the sign after them. -/
def moreFlagsOn : Nat → List Char → Parser (List Char × Char)
  | 0, letters => pure (letters, ':')
  | fuel + 1, letters => do
    match ← take with
    | none => failBack 0 (.missing "-, : or )")
    | some token =>
      if token = .char ')' then return (letters, ')')
      else if token = .char '-' then return (letters, '-')
      else if token = .char ':' then return (letters, ':')
      else moreFlagsOn fuel ((← turnOn (← flagLetter "-, : or )" token)) :: letters)

/-- Reads letters that are turned on, of which `c` is the first unless it is a hyphen, and the sign after them. -/
def flagsOn (c : Char) : Parser (List Char × Char) := do
  if c = '-' then return ([], '-')
  else moreFlagsOn ((← remaining) + 1) [← turnOn c]

/-- Reads letters that are turned off, after those in `letters`, up to a colon. There is one at least. -/
def flagsOff : Nat → List Char → Parser (List Char)
  | 0, letters => pure letters
  | fuel + 1, letters => do
    let expected := if letters.isEmpty then "flag" else ":"
    match ← take with
    | none => failBack 0 (.missing expected)
    | some token =>
      if token = .char ':' && !letters.isEmpty then return letters
      else flagsOff fuel ((← turnOff (← flagLetter expected token)) :: letters)

end Parser

end ContractScan.Pattern
