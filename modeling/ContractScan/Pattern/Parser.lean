import ContractScan.Pattern.Parser.Group

/-!
# Reading patterns

`Pattern.parse` reads a pattern from its written form: branches with bars between them, each a sequence of
parts, any of which may hold a pattern in parentheses.
-/

namespace ContractScan.Pattern

namespace Parser

/-- What is passed over in a verbose pattern. -/
def isSpace (c : Char) : Bool :=
  [' ', '\t', '\n', '\r', '\x0b', '\x0c'].contains c

/-- Passes the rest of a line. -/
def passLine : Nat → Parser Unit
  | 0 => pure ()
  | fuel + 1 => do
    match ← take with
    | none => pure ()
    | some token => if token = .char '\n' then pure () else passLine fuel

/-- Reads what starts with a character that has a meaning, and adds it to the parts read so far, latest first. -/
def charItem (inner : Nested) (atStart : Bool) (start : Nat) (c : Char) (items : List Item) : Parser (List Item) := do
  let flags := (← get).flags
  match c with
  | '.' => return .plain (.char (if flags.dotAll then .set [] true else .any)) :: items
  | '^' => return ⟨.anchor (if flags.multiline then .lineStart else .start), .condition⟩ :: items
  | '$' => return ⟨.anchor (if flags.multiline then .anyLineEnd else .lineEnd), .condition⟩ :: items
  | '[' => return .plain (.char (← charSet start)) :: items
  | '(' =>
    match ← parenthesis inner start atStart with
    | some item => return item :: items
    | none => return items
  | '?' => repeatLatest start ⟨0, some 1⟩ items
  | '*' => repeatLatest start ⟨0, none⟩ items
  | '+' => repeatLatest start ⟨1, none⟩ items
  | '\x7b' =>
    match ← braceBounds? with
    | some bounds => repeatLatest start bounds items
    | none => return .single c :: items
  | _ => return .single c :: items

/-- Reads a branch up to a bar, a closing parenthesis or the end, after the parts in `items`, latest first. Before the
first part of the `first` branch flags may be set for the whole pattern. -/
def branch (inner : Nested) (first : Bool) : Nat → List Item → Parser Pattern
  | 0, items => pure (sequence (items.reverse.map Item.pattern))
  | fuel + 1, items => do
    let start := (← get).position
    match ← peek with
    | some (.escape c) => do
      advance
      branch inner first fuel ((← escapeItem c) :: items)
    | some (.char c) =>
      if c = '|' || c = ')' then pure (sequence (items.reverse.map Item.pattern))
      else do
        advance
        if (← get).flags.verbose && isSpace c then branch inner first fuel items
        else if (← get).flags.verbose && c = '#' then
          passLine ((← remaining) + 1)
          branch inner first fuel items
        else branch inner first fuel (← charItem inner (first && items.isEmpty) start c items)
    | _ => pure (sequence (items.reverse.map Item.pattern))

/-- Reads branches with bars between them, after those in `branches`, latest first. -/
def branchList (inner : Nested) (outermost : Bool) : Nat → List Pattern → Parser Pattern
  | 0, branches => pure (alternatives branches.reverse)
  | fuel + 1, branches => do
    let latest ← branch inner (outermost && branches.isEmpty) ((← remaining) + 1) []
    if ← accept '|' then branchList inner outermost fuel (latest :: branches)
    else return alternatives (latest :: branches).reverse

/-- Reads patterns in parentheses nested at most `depth` deep. -/
def nested : (depth : Nat) → Nested
  | 0 => ⟨pure .empty, pure .empty⟩
  | depth + 1 =>
    ⟨do branchList (nested depth) false ((← remaining) + 1) [],
      do branch (nested depth) false ((← remaining) + 1) []⟩

/-- Every condition refers to a group that there is. -/
def checkConditions : Parser Unit := do
  let reading ← get
  match reading.conditions.reverse.find? fun condition => reading.opened < condition.1 with
  | some (index, position) => failAt position (.invalidReference index)
  | none => pure ()

def whole : Parser Pattern := do
  let size ← remaining
  let pattern ← branchList (nested size) true (size + 1) []
  let reading ← get
  if !reading.tokens.isEmpty then failAt reading.position .unbalancedParenthesis
  else
    checkConditions
    if reading.varying then throw ⟨.varyingLookBehind, none⟩ else return pattern

end Parser

def Reading.start (tokens : List Token) : Reading :=
  ⟨tokens, 0, 0, [], [], none, false, ⟨false, false, false⟩, []⟩

/-- The pattern that a text is the written form of. -/
def parse (source : List Char) : Except Error Pattern :=
  let tokens := tokenize source
  if tokens.head? = some .dangling then .error ⟨.danglingEscape, some 0⟩
  else (·.1) <$> Parser.whole.run (.start tokens)

end ContractScan.Pattern
