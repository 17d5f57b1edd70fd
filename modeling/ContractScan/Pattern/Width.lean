import ContractScan.Pattern.Basic

/-!
# Widths

How many characters a pattern can take. A look-behind needs a body of one fixed width.
-/

namespace ContractScan.Pattern

/-- The fewest and the most characters; without `max` there is no limit. -/
structure Width where
  min : Nat
  max : Option Nat
  deriving Repr, DecidableEq

namespace Width

/-- One number of characters only. -/
def exactly (n : Nat) : Width := ⟨n, some n⟩

def append (a b : Width) : Width :=
  ⟨a.min + b.min, match a.max, b.max with
    | some m, some n => some (m + n)
    | _, _ => none⟩

def either (a b : Width) : Width :=
  ⟨Nat.min a.min b.min, match a.max, b.max with
    | some m, some n => some (Nat.max m n)
    | _, _ => none⟩

/-- The most characters of something repeated. What takes none takes none however often. -/
def repeatMax : Option Nat → Option Nat → Option Nat
  | some 0, _ => some 0
  | _, some 0 => some 0
  | some m, some n => some (m * n)
  | _, _ => none

def repeated (width : Width) (bounds : Bounds) : Width :=
  ⟨width.min * bounds.min, repeatMax width.max bounds.max⟩

/-- Fewest and most agree. -/
def isFixed (width : Width) : Bool :=
  width.max == some width.min

end Width

/-- The width of a pattern, given those of the groups it refers back to. -/
def width (groups : List (Nat × Width)) : Pattern → Width
  | .empty => .exactly 0
  | .char _ => .exactly 1
  | .span _ bounds _ => (Width.exactly 1).repeated bounds
  | .seq first second => (first.width groups).append (second.width groups)
  | .alt first second => (first.width groups).either (second.width groups)
  | .iterate body bounds _ => (body.width groups).repeated bounds
  | .group _ body => body.width groups
  | .again index => (groups.lookup index).getD (.exactly 0)
  | .anchor _ => .exactly 0
  | .look _ _ _ => .exactly 0
  | .atomic body => body.width groups
  | .conditional _ yes no => (yes.width groups).either (no.width groups)

end ContractScan.Pattern
