import ContractScan.Pattern.Parser.Basic

/-!
# Escapes

What a backslash and the characters after it stand for: a control character, a named class, a condition on
the place, a character by its code, or an earlier group.
-/

namespace ContractScan.Pattern.Parser

/-- Letters that stand for a control character, and the backslash itself. -/
def controlEscape? : Char → Option Nat
  | 'a' => some 0x7
  | 'b' => some 0x8
  | 't' => some 0x9
  | 'n' => some 0xA
  | 'v' => some 0xB
  | 'f' => some 0xC
  | 'r' => some 0xD
  | '\\' => some 0x5C
  | _ => none

/-- Letters that stand for a named class or its complement. -/
def categoryEscape? : Char → Option SetItem
  | 'd' => some (.named .digit false)
  | 'D' => some (.named .digit true)
  | 's' => some (.named .blank false)
  | 'S' => some (.named .blank true)
  | 'w' => some (.named .word false)
  | 'W' => some (.named .word true)
  | _ => none

/-- Letters that stand for a condition on the place. -/
def anchorEscape? : Char → Option Anchor
  | 'A' => some .start
  | 'Z' => some .textEnd
  | 'b' => some .boundary
  | 'B' => some .interior
  | _ => none

/-- Reads the digits of an escape that gives a code in exactly `count` hexadecimal digits. -/
def hexEscape (letter : Char) (count : Nat) : Parser Nat := do
  let digits ← takeWhile isHexDigit count
  let written := '\\' :: letter :: digits
  if digits.length < count then failBack written.length (.incompleteEscape (.ofList written))
  else
    let code := numeral 16 digits
    if 0x10FFFF < code then failBack written.length (.badEscape (.ofList written)) else return code

/-- Reads the name of an escape that names a character. No names are known. -/
def namedEscape : Parser Nat := do
  if ← accept '\x7b' then
    let name ← nameUntil '\x7d' "character name" ((← remaining) + 1) []
    failBack (name.length + 4) (.undefinedCharacterName (.ofList name))
  else failBack 0 (.missing "\x7b")

/-- The rest of an octal escape whose digits are known. -/
def octalEscape (digits : List Char) : Parser Nat :=
  let code := numeral 8 digits
  if 0o377 < code then
    failBack (digits.length + 1) (.octalTooLarge (.ofList ('\\' :: digits)))
  else pure code

/-- Reads the rest of an escape that gives a character by its code or stands for itself. Escaped letters
that mean nothing are refused. -/
def codeEscape (c : Char) : Parser Nat :=
  match c with
  | 'x' => hexEscape c 2
  | 'u' => hexEscape c 4
  | 'U' => hexEscape c 8
  | 'N' => namedEscape
  | _ => if c.isAlphanum then failBack 2 (.badEscape (.ofList ['\\', c])) else pure c.toNat

/-- Reads the rest of an escape inside a set. -/
def setEscape (c : Char) : Parser SetItem :=
  match controlEscape? c, categoryEscape? c with
  | some code, _ => pure (.single code)
  | none, some item => pure item
  | none, none => do
    if isOctalDigit c then
      return .single (← octalEscape (c :: (← takeWhile isOctalDigit 2)))
    else return .single (← codeEscape c)

/-- A look-behind refers to groups only that have been closed before it. -/
def checkLookBehind (index : Nat) : Parser Unit := do
  let reading ← get
  match reading.lookBehindFrom with
  | none => pure ()
  | some opened =>
    if (reading.closed.lookup index).isNone then failBack 0 .openReference
    else if opened < index then failBack 0 .lookBehindReference
    else pure ()

/-- A group that can be referred back to: closed, and not inside the look-behind that refers to it.
`offset` leads back from here to the place of the reference. -/
def checkReference (index offset : Nat) : Parser Pattern := do
  if ((← get).closed.lookup index).isNone then failBack offset .openReference
  else
    checkLookBehind index
    return .again index

/-- Reads the rest of a numeric escape: an octal code of three digits, or a reference to a group. -/
def digitEscape (first : Char) : Parser Pattern := do
  let second ← takeWhile Char.isDigit 1
  let third ← if isOctalDigit first && second.any isOctalDigit then takeWhile isOctalDigit 1 else pure []
  if third.isEmpty then
    let digits := first :: second
    let index := numeral 10 digits
    if index ≤ (← get).opened then checkReference index (digits.length + 1)
    else failBack digits.length (.invalidReference index)
  else return .char (.single (← octalEscape (first :: second ++ third)) false)

end ContractScan.Pattern.Parser
