/-!
# Console output

What is handed to the console, before any layout: marked-up texts, framed panels and tables.
-/

namespace ContractScan.Console

/-- A text in a frame. -/
structure Panel where
  markup : String
  title : Option String
  subtitle : Option String
  border : String
  deriving Repr, DecidableEq

inductive Alignment where
  | left
  | center
  | right
  deriving Repr, DecidableEq

def Alignment.name : Alignment → String
  | .left => "left"
  | .center => "center"
  | .right => "right"

structure Column where
  header : String
  style : String
  alignment : Alignment
  width : Option Nat
  maxWidth : Option Nat
  deriving Repr, DecidableEq

/-- A column as wide as its contents, aligned to the left. -/
def Column.plain (header style : String) : Column :=
  ⟨header, style, .left, none, none⟩

/-- A table; every row has a cell for each column. -/
structure Table where
  title : String
  columns : List Column
  rows : List (List String)
  deriving Repr, DecidableEq

/-- One thing that is printed. -/
inductive Item where
  | text (markup : String)
  | panel (panel : Panel)
  | table (table : Table)
  deriving Repr, DecidableEq

def Item.blank : Item := .text ""

end ContractScan.Console
