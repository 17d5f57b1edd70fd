import ContractScan.Pattern.Error
import ContractScan.Pattern.Width

/-!
# Steps of reading a pattern

A written pattern is a list of tokens: single characters, and pairs of a backslash and a character. Here are the
state of reading them and the steps that all others are made of. A backslash at the very end of a pattern is
refused as soon as it becomes the next token, before anything that stands earlier is judged.
-/

namespace ContractScan.Pattern

/-- A piece of a written pattern. -/
inductive Token where
  | char (c : Char)
  | escape (c : Char)
  /-- A backslash with nothing after it. -/
  | dangling
  deriving Repr, DecidableEq

def Token.text : Token → List Char
  | .char c => [c]
  | .escape c => ['\\', c]
  | .dangling => ['\\']

def Token.size (token : Token) : Nat :=
  token.text.length

def tokenize : List Char → List Token
  | [] => []
  | ['\\'] => [.dangling]
  | '\\' :: c :: rest => .escape c :: tokenize rest
  | c :: rest => .char c :: tokenize rest

/-- How some signs are to be read. Case is always disregarded. -/
structure Flags where
  /-- The signs for the ends of the text stand for the ends of every line. -/
  multiline : Bool
  /-- A dot stands for every character. -/
  dotAll : Bool
  /-- Blanks and comments are passed over. -/
  verbose : Bool
  deriving Repr, DecidableEq

/-- What is known while a pattern is read. -/
structure Reading where
  /-- What is still to be read. -/
  tokens : List Token
  /-- The place of the next token. -/
  position : Nat
  /-- How many groups have been opened. -/
  opened : Nat
  /-- The groups that have been closed, with their widths. -/
  closed : List (Nat × Width)
  /-- The groups that have a name. -/
  names : List (String × Nat)
  /-- Inside a look-behind, how many groups had been opened before it. -/
  lookBehindFrom : Option Nat
  /-- Some look-behind has a body without a fixed width. -/
  varying : Bool
  flags : Flags
  /-- The numbers of groups that conditions refer to, with the first places where they do, latest first. -/
  conditions : List (Nat × Nat)
  deriving Repr, DecidableEq

/-- A step of reading a pattern. -/
abbrev Parser := StateT Reading (Except Error)

namespace Parser

def failAt {α : Type} (position : Nat) (fault : Fault) : Parser α :=
  throw ⟨fault, some position⟩

/-- Fails some characters before the next token. -/
def failBack {α : Type} (offset : Nat) (fault : Fault) : Parser α := do
  failAt ((← get).position - offset) fault

def peek : Parser (Option Token) := do
  return (← get).tokens.head?

def advance : Parser Unit := do
  let reading ← get
  match reading.tokens with
  | [] => pure ()
  | token :: rest =>
    let position := reading.position + token.size
    if rest.head? = some .dangling then failAt position .danglingEscape
    else set { reading with tokens := rest, position := position }

def take : Parser (Option Token) := do
  let token ← peek
  advance
  return token

/-- Passes the next token if it is this character. -/
def accept (c : Char) : Parser Bool := do
  if (← peek) = some (.char c) then
    advance
    return true
  else
    return false

/-- Reads up to `n` characters that pass a test. -/
def takeWhile (test : Char → Bool) : Nat → Parser (List Char)
  | 0 => pure []
  | n + 1 => do
    match ← peek with
    | some (.char c) =>
      if test c then
        advance
        return c :: (← takeWhile test n)
      else return []
    | _ => return []

def numeral (base : Nat) (digits : List Char) : Nat :=
  digits.foldl (fun value c => value * base + (if c.isDigit then c.toNat - 0x30
    else c.toLower.toNat - 0x57)) 0

def isHexDigit (c : Char) : Bool :=
  c.isDigit || ('a' ≤ c && c ≤ 'f') || ('A' ≤ c && c ≤ 'F')

def isOctalDigit (c : Char) : Bool :=
  '0' ≤ c && c ≤ '7'

/-- Reads a name up to a character that ends it. -/
def nameUntil (terminator : Char) (what : String) : Nat → List Char → Parser (List Char)
  | 0, name => pure name
  | fuel + 1, name => do
    match ← take with
    | none =>
      if name.isEmpty then failBack 0 (.missing what)
      else failBack name.length (.unterminatedName terminator)
    | some token =>
      if token = .char terminator then
        if name.isEmpty then failBack 1 (.missing what) else return name
      else nameUntil terminator what fuel (name ++ token.text)

def remaining : Parser Nat := do
  return (← get).tokens.length

end Parser

end ContractScan.Pattern
