/-!
# Case shifts

Case maps are long and regular: neighbouring letters move by one distance, or every second one does. A
`Shift` is one such run, and a case map is an ascending list of runs.
-/

namespace ContractScan.Text.Case

/-- The code points `first`, `first + step`, … up to `last`, moved so that `first` becomes `target`. -/
structure Shift where
  first : Nat
  last : Nat
  step : Nat
  target : Nat
  deriving Repr, DecidableEq

def Shift.moves (shift : Shift) (code : Nat) : Bool :=
  shift.first ≤ code && code ≤ shift.last && (code - shift.first) % shift.step == 0

/-- Where the first run that moves the code point takes it; others stay. -/
def Shift.lookup : List Shift → Nat → Nat
  | [], code => code
  | shift :: others, code =>
    if code < shift.first then code
    else if shift.moves code then shift.target + (code - shift.first)
    else Shift.lookup others code

/-- The code point that the run takes to `code`. -/
def Shift.source? (shift : Shift) (code : Nat) : Option Nat :=
  let source := shift.first + (code - shift.target)
  if shift.target ≤ code && shift.moves source then some source else none

end ContractScan.Text.Case
