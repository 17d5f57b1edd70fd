import ContractScan.Json.Basic
import ContractScan.Text.Quoted

/-!
# Writing JSON

Values are written over several lines, indented by two blanks a level, in ASCII only.
-/

namespace ContractScan.Json

/-- The escape of one sixteen-bit unit. -/
def unitEscape (unit : Nat) : List Char :=
  '\\' :: 'u' :: Text.hexDigits 4 unit

/-- The escape of a character by its code, as two surrogates beyond the basic plane. -/
def codeEscape (code : Nat) : List Char :=
  if code ≤ 0xFFFF then unitEscape code
  else
    let offset := code - 0x10000
    unitEscape (0xD800 + offset / 0x400) ++ unitEscape (0xDC00 + offset % 0x400)

def encodeChar (c : Char) : List Char :=
  if c = '\x22' || c = '\\' then ['\\', c]
  else if c = '\n' then ['\\', 'n']
  else if c = '\r' then ['\\', 'r']
  else if c = '\t' then ['\\', 't']
  else if c = '\x08' then ['\\', 'b']
  else if c = '\x0c' then ['\\', 'f']
  else if 0x20 ≤ c.toNat && c.toNat ≤ 0x7E then [c]
  else codeEscape c.toNat

/-- A string between double quotes. -/
def encodeString (text : String) : List Char :=
  '\x22' :: text.toList.flatMap encodeChar ++ ['\x22']

def encodeNumber (mantissa : Int) (decimals : Nat) : List Char :=
  if decimals = 0 then (toString mantissa).toList
  else
    let digits := Nat.toDigits 10 mantissa.natAbs
    let padded := List.replicate (decimals + 1 - digits.length) '0' ++ digits
    let whole := padded.length - decimals
    (if mantissa < 0 then ['-'] else []) ++ padded.take whole ++ '.' :: padded.drop whole

/-- A new line, indented to a level. -/
def newLine (level : Nat) : List Char :=
  '\n' :: List.replicate (2 * level) ' '

mutual

/-- A value inside `level` brackets. -/
def encode (level : Nat) : Json → List Char
  | .null => "null".toList
  | .bool value => (if value then "true" else "false").toList
  | .number mantissa decimals => encodeNumber mantissa decimals
  | .string value => encodeString value
  | .array [] => ['[', ']']
  | .array (item :: items) =>
    '[' :: newLine (level + 1) ++ encode (level + 1) item ++ encodeItems (level + 1) items ++
      newLine level ++ [']']
  | .object [] => ['\x7b', '\x7d']
  | .object ((name, value) :: fields) =>
    '\x7b' :: newLine (level + 1) ++ encodeString name ++ [':', ' '] ++ encode (level + 1) value ++
      encodeFields (level + 1) fields ++ newLine level ++ ['\x7d']

/-- The items after the first, each after a comma. -/
def encodeItems (level : Nat) : List Json → List Char
  | [] => []
  | item :: items => ',' :: newLine level ++ encode level item ++ encodeItems level items

/-- The fields after the first, each after a comma. -/
def encodeFields (level : Nat) : List (String × Json) → List Char
  | [] => []
  | (name, value) :: fields =>
    ',' :: newLine level ++ encodeString name ++ [':', ' '] ++ encode level value ++
      encodeFields level fields

end

def render (value : Json) : String :=
  String.ofList (encode 0 value)

end ContractScan.Json
