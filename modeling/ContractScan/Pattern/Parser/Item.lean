import ContractScan.Pattern.Parser.Set

/-!
# Parts of a branch

A branch is made of parts: characters, sets, conditions and what stands in parentheses. A repetition applies to the
part before it, unless that is a condition or is repeated already.
-/

namespace ContractScan.Pattern.Parser

/-- What a repetition sign after a part means. -/
inductive Role where
  /-- It repeats the part. -/
  | plain
  /-- The part is a condition, which cannot be repeated. -/
  | condition
  /-- The part is repeated already. -/
  | repetition
  deriving Repr, DecidableEq

/-- A part of a branch. -/
structure Item where
  pattern : Pattern
  role : Role
  deriving Repr, DecidableEq

/-- A part that can be repeated. -/
def Item.plain (pattern : Pattern) : Item := ⟨pattern, .plain⟩

/-- A part that matches one character. -/
def Item.single (c : Char) : Item := .plain (.char (.single c.toNat false))

/-- Reads the rest of an escape outside a set. -/
def escapeItem (c : Char) : Parser Item :=
  match anchorEscape? c, categoryEscape? c, controlEscape? c with
  | some condition, _, _ => pure ⟨.anchor condition, .condition⟩
  | none, some item, _ => pure (.plain (.char (.set [item] false)))
  | none, none, some code => pure (.plain (.char (.single code false)))
  | none, none, none => do
    if c = '0' then
      let digits ← takeWhile isOctalDigit 2
      return .plain (.char (.single (numeral 8 (c :: digits)) false))
    else if c.isDigit then return .plain (← digitEscape c)
    else return .plain (.char (.single (← codeEscape c) false))

/-- Numbers of repetitions are below this. -/
def repetitionLimit : Nat := 4294967295

/-- The value of the digits of a bound, which stands after the place `start`. -/
def boundValue (start : Nat) (digits : List Char) : Parser Nat :=
  let value := numeral 10 digits
  if repetitionLimit ≤ value then failAt start .tooManyRepetitions else pure value

/-- Reads the bounds after an opening brace; none if they are not well formed. -/
def braceBounds? : Parser (Option Bounds) := do
  let start ← get
  if start.tokens.head? = some (.char '\x7d') then return none
  else
    let low ← takeWhile Char.isDigit start.tokens.length
    let high ← if ← accept ',' then takeWhile Char.isDigit start.tokens.length else pure low
    if ← accept '\x7d' then
      let min ← boundValue start.position low
      if high.isEmpty then return some ⟨min, none⟩
      else
        let max ← boundValue start.position high
        if max < min then failAt start.position .minExceedsMax else return some ⟨min, some max⟩
    else
      set start
      return none

/-- Repeats the latest part. The repetition sign stands at `position`. -/
def repeatLatest (position : Nat) (bounds : Bounds) : List Item → Parser (List Item)
  | [] => failAt position .nothingToRepeat
  | latest :: earlier =>
    match latest.role with
    | .condition => failAt position .nothingToRepeat
    | .repetition => failAt position .multipleRepeat
    | .plain => do
      if ← accept '?' then return ⟨latest.pattern.repeated bounds .fewest, .repetition⟩ :: earlier
      else if ← accept '+' then return ⟨latest.pattern.possessive bounds, .repetition⟩ :: earlier
      else return ⟨latest.pattern.repeated bounds .most, .repetition⟩ :: earlier

end ContractScan.Pattern.Parser
