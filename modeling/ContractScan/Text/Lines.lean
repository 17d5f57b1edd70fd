import ContractScan.Text.CharClass

/-!
# Lines

Source text is cut at line feeds only, and a line is looked at without the blanks around it. Text that comes from
a file or from standard input first has its line ends made uniform: a carriage return, with or without a line feed
after it, becomes a line feed.
-/

namespace ContractScan.Text

/-- The pieces between line feeds; a text without one is a single line. -/
def lines (text : String) : List String :=
  (text.toList.splitOn '\n').map String.ofList

/-- Every `"\r\n"` and every other `'\r'` becomes `'\n'`. -/
def unifyLineEnds : List Char → List Char
  | [] => []
  | '\r' :: '\n' :: rest => '\n' :: unifyLineEnds rest
  | c :: rest => (if c = '\r' then '\n' else c) :: unifyLineEnds rest

/-- The text without the blanks at its end. -/
def trimEnd (text : List Char) : List Char :=
  (text.reverse.dropWhile isBlank).reverse

/-- The text without the blanks at either end. -/
def trim (text : List Char) : List Char :=
  trimEnd (text.dropWhile isBlank)

def trimmed (text : String) : String :=
  String.ofList (trim text.toList)

def isAllBlank (text : String) : Bool :=
  text.toList.all isBlank

/-- The needle stands somewhere in the text. -/
def occursIn (needle : List Char) : List Char → Bool
  | [] => needle.isEmpty
  | c :: rest => needle.isPrefixOf (c :: rest) || occursIn needle rest

end ContractScan.Text
