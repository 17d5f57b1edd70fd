import ContractScan.Pattern.Parser.Escape

/-!
# Character sets

Sets in brackets: characters, ranges and named classes, or everything outside them.
-/

namespace ContractScan.Pattern.Parser

/-- Reads a member of a set that starts with this token. -/
def setMember (token : Token) : Parser SetItem :=
  match token with
  | .char c => pure (.single c.toNat)
  | .escape c => setEscape c
  | .dangling => pure (.single 0x5C)

/-- The range between two members of a set. -/
def setRange (first last : Token) (low high : SetItem) : Parser SetItem :=
  let refuse : Parser SetItem :=
    failBack (first.size + 1 + last.size) (.badRange (.ofList first.text) (.ofList last.text))
  match low, high with
  | .single a, .single b => if b < a then refuse else pure (.range a b)
  | _, _ => refuse

/-- Reads the members of the set that opens at `start`, after those in `items`, latest first. A closing
bracket is a member if it comes first. -/
def setItems (start : Nat) : Nat → List SetItem → Parser (List SetItem)
  | 0, items => pure items.reverse
  | fuel + 1, items => do
    match ← take with
    | none => failAt start .unterminatedSet
    | some token =>
      if token = .char ']' && !items.isEmpty then return items.reverse
      else
        let low ← setMember token
        if ← accept '-' then
          match ← take with
          | none => failAt start .unterminatedSet
          | some last =>
            if last = .char ']' then return (.single '-'.toNat :: low :: items).reverse
            else
              let high ← setMember last
              setItems start fuel ((← setRange token last low high) :: items)
        else setItems start fuel (low :: items)

/-- Reads the set that opens at `start`. A set of one character is that character. -/
def charSet (start : Nat) : Parser CharTest := do
  let negated ← accept '^'
  match (← setItems start ((← remaining) + 1) []).eraseDups with
  | [.single code] => return .single code negated
  | items => return .set items negated

end ContractScan.Pattern.Parser
