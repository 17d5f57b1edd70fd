import ContractScan.Text.Case.Lower

/-!
# Comparison without case

Two characters are the same letter when their small letters are, or when these are two spellings of one
letter, such as `s` and the long s. `foldCode` picks one code point per letter; `spellings` lists them all.
-/

namespace ContractScan.Text.Case

/-- Small letters that are a second spelling, by code point, with the first spelling of the same letter. -/
def secondSpellings : List (Nat × Nat) := [
  (0x131, 0x69), (0x17F, 0x73), (0x3B9, 0x345), (0x3BC, 0xB5),
  (0x3C3, 0x3C2), (0x3D0, 0x3B2), (0x3D1, 0x3B8), (0x3D5, 0x3C6),
  (0x3D6, 0x3C0), (0x3F0, 0x3BA), (0x3F1, 0x3C1), (0x3F5, 0x3B5),
  (0x1C80, 0x432), (0x1C81, 0x434), (0x1C82, 0x43E), (0x1C83, 0x441),
  (0x1C84, 0x442), (0x1C85, 0x442), (0x1C86, 0x44A), (0x1C87, 0x463),
  (0x1E9B, 0x1E61), (0x1FBE, 0x345), (0x1FD3, 0x390), (0x1FE3, 0x3B0),
  (0xA64B, 0x1C88), (0xFB06, 0xFB05)]

/-- The value of `code` in an ascending table, or `code` itself. -/
def spellingIn : List (Nat × Nat) → Nat → Nat
  | [], code => code
  | (second, first) :: others, code =>
    if code < second then code else if code = second then first else spellingIn others code

/-- The first spelling of a small letter. -/
def firstSpelling (code : Nat) : Nat :=
  spellingIn secondSpellings code

/-- The code point that stands for a letter in all its cases and spellings. -/
def foldCode (code : Nat) : Nat :=
  firstSpelling (lowerCode code)

/-- The other small letters that spell the same letter as a small letter. -/
def otherSpellings (code : Nat) : List Nat :=
  let first := firstSpelling code
  (first :: (secondSpellings.filter fun entry => entry.2 == first).map Prod.fst).filter (· != code)

/-- Every code point of the letter that has the small letter `code`, which comes first. -/
def spellings (code : Nat) : List Nat :=
  (code :: otherSpellings code).flatMap fun small => small :: capitals small

end ContractScan.Text.Case
