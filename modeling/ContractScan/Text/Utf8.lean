import ContractScan.Text.Lines

/-!
# Reading UTF-8

Bytes are decoded leniently: each longest piece that begins a character but does not complete one becomes a
single replacement character, and so does each byte that begins none. Decoding never fails.
-/

namespace ContractScan.Text.Utf8

/-- What stands for bytes that are not UTF-8. -/
def replacement : Char := '�'

/-- A character whose first bytes have been read: `missing` more are due, the next of them between `low` and
`high`, and `bits` have been collected. -/
structure Pending where
  missing : Nat
  low : UInt8
  high : UInt8
  bits : Nat
  deriving Repr, DecidableEq

/-- What a lead byte announces. The narrower ranges leave out overlong forms, surrogates and codes past the
last one. -/
def lead? (b : UInt8) : Option Pending :=
  if 0xC2 ≤ b && b ≤ 0xDF then some ⟨1, 0x80, 0xBF, b.toNat - 0xC0⟩
  else if b = 0xE0 then some ⟨2, 0xA0, 0xBF, 0⟩
  else if b = 0xED then some ⟨2, 0x80, 0x9F, 0xD⟩
  else if 0xE1 ≤ b && b ≤ 0xEF then some ⟨2, 0x80, 0xBF, b.toNat - 0xE0⟩
  else if b = 0xF0 then some ⟨3, 0x90, 0xBF, 0⟩
  else if 0xF1 ≤ b && b ≤ 0xF3 then some ⟨3, 0x80, 0xBF, b.toNat - 0xF0⟩
  else if b = 0xF4 then some ⟨3, 0x80, 0x8F, 4⟩
  else none

/-- Reads a byte that begins a character, or should. -/
def start (b : UInt8) : List Char × Option Pending :=
  if b < 0x80 then ([Char.ofNat b.toNat], none)
  else match lead? b with
    | some pending => ([], some pending)
    | none => ([replacement], none)

/-- Reads a byte that continues a character, or should. One that does not is read afresh after a
replacement character for what came before it. -/
def extend (pending : Pending) (b : UInt8) : List Char × Option Pending :=
  if pending.low ≤ b && b ≤ pending.high then
    let bits := pending.bits * 64 + (b.toNat - 0x80)
    if pending.missing ≤ 1 then ([Char.ofNat bits], none)
    else ([], some ⟨pending.missing - 1, 0x80, 0xBF, bits⟩)
  else
    let (chars, next) := start b
    (replacement :: chars, next)

def step : Option Pending → UInt8 → List Char × Option Pending
  | none, b => start b
  | some pending, b => extend pending b

/-- The characters of the bytes, the first of which may complete `pending`. -/
def decodeFrom (pending : Option Pending) : List UInt8 → List Char
  | [] => if pending.isSome then [replacement] else []
  | b :: bytes =>
    let (chars, next) := step pending b
    chars ++ decodeFrom next bytes

def decode (bytes : List UInt8) : List Char :=
  decodeFrom none bytes

/-- The text of a file: its characters, with uniform line ends. -/
def readText (bytes : List UInt8) : String :=
  String.ofList (unifyLineEnds (decode bytes))

end ContractScan.Text.Utf8
