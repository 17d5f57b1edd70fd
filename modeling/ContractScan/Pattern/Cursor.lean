/-!
# Places in a line

A cursor splits a line into what stands before a place and what stands after it.
-/

namespace ContractScan.Pattern

/-- A place in a line. -/
structure Cursor where
  /-- The characters before the place, nearest first. -/
  before : List Char
  /-- The characters after the place. -/
  rest : List Char
  /-- How many characters stand after the place. -/
  left : Nat
  /-- The count is right. -/
  left_eq : left = rest.length
  deriving DecidableEq

namespace Cursor

/-- The place before the first character. -/
def ofLine (line : List Char) : Cursor :=
  ⟨[], line, line.length, rfl⟩

/-- The character after the place, and the place behind it. -/
@[inline]
def next? (cursor : Cursor) : Option (Char × Cursor) :=
  match cursor with
  | ⟨_, [], _, _⟩ => none
  | ⟨before, c :: rest, left, left_eq⟩ =>
    some (c, ⟨c :: before, rest, left - 1, by simp [left_eq]⟩)

/-- The place one character earlier. -/
def previous? (cursor : Cursor) : Option Cursor :=
  match cursor with
  | ⟨[], _, _, _⟩ => none
  | ⟨c :: before, rest, left, left_eq⟩ =>
    some ⟨before, c :: rest, left + 1, by simp [left_eq]⟩

/-- The place some characters earlier, if the line goes back that far. -/
def back? : Nat → Cursor → Option Cursor
  | 0, cursor => some cursor
  | n + 1, cursor => cursor.previous?.bind (back? n)

/-- The text between an earlier place and this one. -/
def textSince (earlier cursor : Cursor) : List Char :=
  earlier.rest.take (earlier.left - cursor.left)

end Cursor

end ContractScan.Pattern
