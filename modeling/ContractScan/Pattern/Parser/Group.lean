import ContractScan.Pattern.Parser.Flags
import ContractScan.Pattern.Parser.Item
import ContractScan.Text.Identifier
import ContractScan.Text.Lines

/-!
# Parentheses

What stands in parentheses: groups that remember their match, references to them by name, conditions on them,
look-arounds, groups with flags of their own, and comments.
-/

namespace ContractScan.Pattern.Parser

/-- What reads a pattern inside parentheses. -/
structure Nested where
  /-- Reads branches with bars between them. -/
  expression : Parser Pattern
  /-- Reads one branch. -/
  branch : Parser Pattern

/-- Reads the closing parenthesis of what opened at `start`. -/
def closeParenthesis (start : Nat) : Parser Unit := do
  if ← accept ')' then pure () else failAt start .unterminatedGroup

/-- Reads the inside of a group that remembers its match, and may have a name. -/
def captureGroup (inner : Nested) (start : Nat) (name : Option (List Char)) : Parser Item := do
  let index := (← get).opened + 1
  modify fun reading => { reading with opened := index }
  match name with
  | none => pure ()
  | some chars =>
    let text := String.ofList chars
    match (← get).names.lookup text with
    | some earlier => failBack (chars.length + 1) (.redefinedGroupName text index earlier)
    | none => modify fun reading => { reading with names := (text, index) :: reading.names }
  let body ← inner.expression
  closeParenthesis start
  modify fun reading =>
    { reading with closed := (index, body.width reading.closed) :: reading.closed }
  return .plain (.group index body)

/-- Reads a group name up to the character that ends it. -/
def groupName (terminator : Char) : Parser (List Char) := do
  let name ← nameUntil terminator "group name" ((← remaining) + 1) []
  if Text.isIdentifier name then return name
  else failBack (name.length + 1) (.badGroupName (.ofList name))

/-- Reads the rest of a reference to a group by its name. -/
def namedReference : Parser Item := do
  let name ← groupName ')'
  match (← get).names.lookup (.ofList name) with
  | none => failBack (name.length + 1) (.unknownGroupName (.ofList name))
  | some index => return .plain (← checkReference index (name.length + 1))

/-- The whole number that a text is the written form of: digits of any script, with single underscores between them,
after a sign or none, and blanks around. -/
def wholeNumber? (text : List Char) : Option Int :=
  match Text.trim text with
  | '-' :: digits => (natural? digits).map fun value => -Int.ofNat value
  | '+' :: digits => (natural? digits).map Int.ofNat
  | digits => (natural? digits).map Int.ofNat
where
  natural? (digits : List Char) : Option Nat :=
    let groups := digits.splitOn '_'
    if groups.contains [] then none
    else groups.flatten.foldlM (fun value c => (Text.decimalValue? c.toNat).map (value * 10 + ·)) 0

/-- Conditions refer to groups below this number. -/
def groupLimit : Nat := 1073741823

/-- The number of the group that a condition names. A group that is named by its number may come later. -/
def conditionIndex (name : List Char) : Parser Nat := do
  if Text.isIdentifier name then
    match (← get).names.lookup (.ofList name) with
    | some index => return index
    | none => failBack (name.length + 1) (.unknownGroupName (.ofList name))
  else match wholeNumber? name with
    | some (.ofNat 0) => failBack (name.length + 1) .badGroupNumber
    | some (.ofNat index) =>
      if groupLimit ≤ index then failBack (name.length + 1) (.invalidReference index)
      else
        modify fun reading =>
          if (reading.conditions.lookup index).isSome then reading
          else { reading with
            conditions := (index, reading.position - (name.length + 1)) :: reading.conditions }
        return index
    | _ => failBack (name.length + 1) (.badGroupName (.ofList name))

/-- Reads the rest of a condition on a group, with a branch for when it has matched and may be one for when not. -/
def conditional (inner : Nested) (start : Nat) : Parser Item := do
  let index ← conditionIndex (← nameUntil ')' "group name" ((← remaining) + 1) [])
  checkLookBehind index
  let yes ← inner.branch
  let no ← if ← accept '|' then inner.branch else pure .empty
  if (← peek) = some (.char '|') then failBack 0 .manyBranches
  else
    closeParenthesis start
    return .plain (.conditional index yes no)

/-- Passes a comment that opened at `start`. -/
def comment (start : Nat) : Nat → Parser Unit
  | 0 => pure ()
  | fuel + 1 => do
    match ← take with
    | none => failAt start .unterminatedComment
    | some token => if token = .char ')' then pure () else comment start fuel

def lookAhead (inner : Nested) (start : Nat) (negated : Bool) : Parser Item := do
  let body ← inner.expression
  closeParenthesis start
  return .plain (.look .ahead negated body)

def lookBehind (inner : Nested) (start : Nat) (negated : Bool) : Parser Item := do
  let outer := (← get).lookBehindFrom
  modify fun reading => { reading with lookBehindFrom := some (outer.getD reading.opened) }
  let body ← inner.expression
  modify fun reading => { reading with lookBehindFrom := outer }
  closeParenthesis start
  let width := body.width (← get).closed
  modify fun reading => { reading with varying := reading.varying || !width.isFixed }
  return .plain (.look (.behind width.min) negated body)

/-- Reads the rest of a group that has flags of its own and starts with `c`. None if the flags are for the whole
pattern, which is so at its start only. -/
def flagGroup (inner : Nested) (start : Nat) (atStart : Bool) (c : Char) : Parser (Option Item) := do
  let (on, sign) ← flagsOn c
  if sign = ')' then
    if atStart then
      modify fun reading => { reading with flags := reading.flags.change on true }
      return none
    else failAt start .flagsNotAtStart
  else
    let off ← if sign = '-' then flagsOff ((← remaining) + 1) [] else pure []
    if on.any off.contains then failBack 1 .flagOnAndOff
    else
      let outer := (← get).flags
      modify fun reading => { reading with flags := (outer.change on true).change off false }
      let body ← inner.expression
      modify fun reading => { reading with flags := outer }
      closeParenthesis start
      return some (.plain body.once)

/-- The fault of an extension that is not known, written from the question mark on. -/
def refuseExtension {α : Type} (opening : List Char) (token : Token) : Parser α :=
  let written := opening ++ token.text
  failBack written.length (.unknownExtension (.ofList written))

/-- Reads a token that has to be there. -/
def takeSome : Parser Token := do
  match ← take with
  | none => failBack 0 .unexpectedEnd
  | some token => return token

/-- Reads what follows a parenthesis that opened at `start`; none for a comment, and for flags of the whole pattern. -/
def parenthesis (inner : Nested) (start : Nat) (atStart : Bool) : Parser (Option Item) := do
  if ← accept '?' then
    match ← takeSome with
    | .char 'P' =>
      if ← accept '<' then return some (← captureGroup inner start (some (← groupName '>')))
      else if ← accept '=' then return some (← namedReference)
      else refuseExtension ['?', 'P'] (← takeSome)
    | .char ':' => do
      let body ← inner.expression
      closeParenthesis start
      return some (.plain body)
    | .char '>' => do
      let body ← inner.expression
      closeParenthesis start
      return some (.plain (.atomic body))
    | .char '(' => return some (← conditional inner start)
    | .char '#' => do
      comment start ((← remaining) + 1)
      return none
    | .char '=' => return some (← lookAhead inner start false)
    | .char '!' => return some (← lookAhead inner start true)
    | .char '<' => do
      match ← takeSome with
      | .char '=' => return some (← lookBehind inner start false)
      | .char '!' => return some (← lookBehind inner start true)
      | token => refuseExtension ['?', '<'] token
    | .char c =>
      if c = '-' || flagLetters.contains c then flagGroup inner start atStart c
      else refuseExtension ['?'] (.char c)
    | token => refuseExtension ['?'] token
  else return some (← captureGroup inner start none)

end ContractScan.Pattern.Parser
