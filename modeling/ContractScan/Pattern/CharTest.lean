import ContractScan.Pattern.Basic
import ContractScan.Text.CharClass
import ContractScan.Text.Case.Fold
import ContractScan.Text.Case.Upper
import ContractScan.Text.Word

/-!
# Tests on characters

All tests disregard case: they look at the small letter of a character only, so the capital and the small
form of a letter always get the same answer.
-/

namespace ContractScan.Pattern

open Text Text.Case

def Category.holds : Category → Nat → Bool
  | .digit, code => isDecimal code
  | .blank, code => isBlankCode code
  | .word, code => isWord code

def between (first last code : Nat) : Bool :=
  first ≤ code && code ≤ last

def basicPlaneEnd : Nat := 0xFFFF

/-- The member admits a character whose small letter is `small`. Inside the basic plane a letter admits all
its spellings, and a range all spellings of the letters in it. Beyond it a single character admits itself
alone, and a range also looks at the capital of the small letter. -/
def SetItem.admits (item : SetItem) (small : Nat) : Bool :=
  match item with
  | .single code =>
    if code ≤ basicPlaneEnd then firstSpelling small == foldCode code else small == code
  | .range first last =>
    between first last small || (spellings small).any (between first last) ||
      (basicPlaneEnd < last && between first last (upperHead small))
  | .named category complement => category.holds small != complement

/-- The test admits a character whose small letter is `small`. -/
def CharTest.admits (test : CharTest) (small : Nat) : Bool :=
  match test with
  | .any => small != 0xA
  | .single code negated => (firstSpelling small == foldCode code) != negated
  | .set items negated => (items.any fun item => item.admits small) != negated

def CharTest.accepts (test : CharTest) (c : Char) : Bool :=
  test.admits (lowerCode c.toNat)

end ContractScan.Pattern
