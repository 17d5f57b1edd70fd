import ContractScan.Text.Printable

/-!
# Quoted text

Messages show a text between quotes. Single quotes are used unless the text holds one and no double quote.
The quote in use and the backslash are escaped, tab and line ends have short escapes, and every other
unprintable character is written by its code in two, four or eight hexadecimal digits.
-/

namespace ContractScan.Text

/-- The lower-case hexadecimal digits of a number, at least `width` of them. -/
def hexDigits (width code : Nat) : List Char :=
  let digits := Nat.toDigits 16 code
  List.replicate (width - digits.length) '0' ++ digits

namespace Quoted

def mark (text : List Char) : Char :=
  if text.contains '\x27' && !text.contains '\x22' then '\x22' else '\x27'

/-- The shortest numeric escape of a character. -/
def numericEscape (code : Nat) : List Char :=
  if code ≤ 0xFF then '\\' :: 'x' :: hexDigits 2 code
  else if code ≤ 0xFFFF then '\\' :: 'u' :: hexDigits 4 code
  else '\\' :: 'U' :: hexDigits 8 code

/-- One character between the quotes `quote`. -/
def encodeChar (quote c : Char) : List Char :=
  if c = quote || c = '\\' then ['\\', c]
  else if c = '\n' then ['\\', 'n']
  else if c = '\r' then ['\\', 'r']
  else if c = '\t' then ['\\', 't']
  else if isPrintable c.toNat then [c]
  else numericEscape c.toNat

end Quoted

/-- The text between quotes, escaped. -/
def quoted (text : String) : String :=
  let quote := Quoted.mark text.toList
  String.ofList (quote :: text.toList.flatMap (Quoted.encodeChar quote) ++ [quote])

end ContractScan.Text
