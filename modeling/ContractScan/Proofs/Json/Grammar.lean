import ContractScan.Json.Printer
import Mathlib.Algebra.Group.Nat.Defs
import Mathlib.Data.List.Forall2
import Mathlib.Tactic.SplitIfs

/-!
# The grammar of JSON

Which texts spell which values: blanks around every value and mark, escapes in strings, fractions and
exponents in numbers. The grammar knows nothing of the printer. Every document the printer writes spells the
value it was written from, in ASCII only.
-/

namespace ContractScan.Json

/-- The characters that may stand around a value. -/
def isBlank (c : Char) : Bool :=
  c = ' ' || c = '\t' || c = '\n' || c = '\r'

def Blank (text : List Char) : Prop :=
  ∀ c ∈ text, isBlank c = true

/-! ## Strings -/

/-- The value of a hexadecimal digit, in either case. -/
def hexValue? (c : Char) : Option Nat :=
  if 48 ≤ c.toNat ∧ c.toNat ≤ 57 then some (c.toNat - 48)
  else if 97 ≤ c.toNat ∧ c.toNat ≤ 102 then some (c.toNat - 87)
  else if 65 ≤ c.toNat ∧ c.toNat ≤ 70 then some (c.toNat - 55)
  else none

/-- Four hexadecimal digits and the sixteen-bit unit they spell. -/
inductive SpellsUnit : List Char → Nat → Prop
  | four {a b c d : Char} {w x y z : Nat} (first : hexValue? a = some w) (second : hexValue? b = some x)
      (third : hexValue? c = some y) (fourth : hexValue? d = some z) :
      SpellsUnit [a, b, c, d] (((w * 16 + x) * 16 + y) * 16 + z)

/-- The characters that have an escape of their own, each behind its mark. -/
def shortEscapes : List (Char × Char) :=
  [('\x22', '\x22'), ('\\', '\\'), ('/', '/'), ('b', '\x08'), ('f', '\x0c'), ('n', '\n'), ('r', '\r'),
    ('t', '\t')]

/-- The spellings of one character inside a string. A surrogate spells nothing by itself. -/
inductive SpellsChar : List Char → Char → Prop
  | plain {c : Char} (visible : 0x20 ≤ c.toNat) (quote : c ≠ '\x22') (backslash : c ≠ '\\') : SpellsChar [c] c
  | short {mark c : Char} (listed : (mark, c) ∈ shortEscapes) : SpellsChar ['\\', mark] c
  | unit {digits : List Char} {c : Char} (unit : SpellsUnit digits c.toNat) :
      SpellsChar ('\\' :: 'u' :: digits) c
  | pair {upper lower : List Char} {c : Char} {high low : Nat} (highSmall : high < 0x400)
      (lowSmall : low < 0x400) (first : SpellsUnit upper (0xD800 + high))
      (second : SpellsUnit lower (0xDC00 + low)) (code : c.toNat = 0x10000 + high * 0x400 + low) :
      SpellsChar ('\\' :: 'u' :: upper ++ '\\' :: 'u' :: lower) c

/-- A string between double quotes, character by character. -/
inductive SpellsString : List Char → String → Prop
  | quoted {pieces : List (List Char)} {value : String}
      (spelled : List.Forall₂ SpellsChar pieces value.toList) :
      SpellsString ('\x22' :: pieces.flatten ++ ['\x22']) value

/-! ## Numbers -/

def Digits (text : List Char) : Prop :=
  text ≠ [] ∧ ∀ c ∈ text, c.isDigit = true

/-- The digits before the point. Zero leads nothing but itself. -/
def WholeDigits (text : List Char) : Prop :=
  Digits text ∧ (text.head? = some '0' → text = ['0'])

/-- The part from the point on, if there is one, and its digits. -/
inductive SpellsFraction : List Char → List Char → Prop
  | absent : SpellsFraction [] []
  | present {digits : List Char} (some : Digits digits) : SpellsFraction ('.' :: digits) digits

/-- The sign of an exponent, if there is one, and whether it is a minus. -/
inductive SpellsSign : List Char → Bool → Prop
  | absent : SpellsSign [] false
  | plus : SpellsSign ['+'] false
  | minus : SpellsSign ['-'] true

/-- A whole number from its sign and its digits. -/
def signed (negative : Bool) (digits : List Char) : Int :=
  if negative then -(Nat.ofDigitChars 10 digits 0 : Int) else Nat.ofDigitChars 10 digits 0

/-- The exponent, if there is one. -/
inductive SpellsExponent : List Char → Int → Prop
  | absent : SpellsExponent [] 0
  | present {mark : Char} {sign digits : List Char} {negative : Bool} (marked : mark = 'e' ∨ mark = 'E')
      (direction : SpellsSign sign negative) (some : Digits digits) :
      SpellsExponent (mark :: sign ++ digits) (signed negative digits)

/-- The number `mantissa * 10 ^ (exponent - places)`. -/
def scaled (mantissa : Int) (places : Nat) (exponent : Int) : Json :=
  if exponent ≤ places then .number mantissa (places - exponent).toNat
  else .number (mantissa * (10 ^ (exponent - places).toNat : Nat)) 0

/-- A number: a minus, if any, the digits before the point, the fraction and the exponent. -/
inductive SpellsNumber : List Char → Json → Prop
  | decimal {whole fraction places power : List Char} {exponent : Int} (negative : Bool)
      (leading : WholeDigits whole) (point : SpellsFraction fraction places)
      (scale : SpellsExponent power exponent) :
      SpellsNumber ((if negative then ['-'] else []) ++ whole ++ fraction ++ power)
        (scaled (signed negative (whole ++ places)) places.length exponent)

/-! ## Values -/

/-- One member or more between commas, with blanks around each. -/
inductive Series {α : Type} (SpellsMember : List Char → α → Prop) : List Char → List α → Prop
  | last {before text after : List Char} {member : α} (left : Blank before) (spelled : SpellsMember text member)
      (right : Blank after) : Series SpellsMember (before ++ text ++ after) [member]
  | more {before text after others : List Char} {member : α} {members : List α} (left : Blank before)
      (spelled : SpellsMember text member) (right : Blank after) (rest : Series SpellsMember others members) :
      Series SpellsMember (before ++ text ++ after ++ ',' :: others) (member :: members)

/-- A name and a value with a colon between them. -/
inductive SpellsField {α : Type} (SpellsValue : List Char → α → Prop) : List Char → String × α → Prop
  | named {title left right text : List Char} {name : String} {value : α} (named : SpellsString title name)
      (before : Blank left) (after : Blank right) (spelled : SpellsValue text value) :
      SpellsField SpellsValue (title ++ left ++ ':' :: right ++ text) (name, value)

/-- The text of a value, without blanks around it. -/
inductive Spells : List Char → Json → Prop
  | null : Spells ['n', 'u', 'l', 'l'] .null
  | true : Spells ['t', 'r', 'u', 'e'] (.bool Bool.true)
  | false : Spells ['f', 'a', 'l', 's', 'e'] (.bool Bool.false)
  | number {text : List Char} {value : Json} (spelled : SpellsNumber text value) : Spells text value
  | string {text : List Char} {value : String} (spelled : SpellsString text value) : Spells text (.string value)
  | noItems {blanks : List Char} (blank : Blank blanks) : Spells ('[' :: blanks ++ [']']) (.array [])
  | array {text : List Char} {items : List Json} (spelled : Series Spells text items) :
      Spells ('[' :: text ++ [']']) (.array items)
  | noFields {blanks : List Char} (blank : Blank blanks) : Spells ('\x7b' :: blanks ++ ['\x7d']) (.object [])
  | object {text : List Char} {fields : List (String × Json)}
      (spelled : Series (SpellsField Spells) text fields) :
      Spells ('\x7b' :: text ++ ['\x7d']) (.object fields)

/-- The text of a value, with blanks around it. -/
inductive Document : List Char → Json → Prop
  | around {before text after : List Char} {value : Json} (left : Blank before) (spelled : Spells text value)
      (right : Blank after) : Document (before ++ text ++ after) value

/-! ## What the printer writes -/

theorem hexValue?_digitChar {digit : Nat} (small : digit < 16) : hexValue? digit.digitChar = some digit := by
  rcases digit with _ | _ | _ | _ | _ | _ | _ | _ | _ | _ | _ | _ | _ | _ | _ | _ | digit
  all_goals first | rfl | omega

theorem hexDigits_succ {width : Nat} (wide : 0 < width) (n : Nat) :
    Text.hexDigits (width + 1) n = Text.hexDigits width (n / 16) ++ [(n % 16).digitChar] := by
  unfold Text.hexDigits
  by_cases small : n < 16
  · rw [Nat.toDigits_of_lt_base small, Nat.div_eq_of_lt small, Nat.mod_eq_of_lt small, Nat.toDigits_zero]
    obtain ⟨width, rfl⟩ : ∃ fewer, width = fewer + 1 := ⟨width - 1, by omega⟩
    simp [← List.replicate_succ']
  · rw [Nat.toDigits_of_base_le (by decide) (by omega)]
    simp

/-- Four digits are enough for a unit, and zeros lead where fewer would do. -/
theorem hexDigits_four {unit : Nat} (small : unit < 0x10000) :
    Text.hexDigits 4 unit =
      [(unit / 4096).digitChar, (unit / 256 % 16).digitChar, (unit / 16 % 16).digitChar,
        (unit % 16).digitChar] := by
  have first : Text.hexDigits 1 (unit / 4096) = [(unit / 4096).digitChar] := by
    rw [Text.hexDigits, Nat.toDigits_of_lt_base (by omega)]
    rfl
  rw [hexDigits_succ (by decide), hexDigits_succ (by decide), hexDigits_succ (by decide)]
  simp only [Nat.div_div_eq_div_mul]
  rw [first]
  rfl

theorem spellsUnit_hexDigits {unit : Nat} (small : unit < 0x10000) :
    SpellsUnit (Text.hexDigits 4 unit) unit := by
  rw [hexDigits_four small]
  have spelled := SpellsUnit.four (hexValue?_digitChar (show unit / 4096 < 16 by omega))
    (hexValue?_digitChar (show unit / 256 % 16 < 16 by omega))
    (hexValue?_digitChar (show unit / 16 % 16 < 16 by omega))
    (hexValue?_digitChar (show unit % 16 < 16 by omega))
  rwa [show ((unit / 4096 * 16 + unit / 256 % 16) * 16 + unit / 16 % 16) * 16 + unit % 16 = unit by omega]
    at spelled

theorem toNat_lt (c : Char) : c.toNat < 0x110000 := by
  rcases c.valid with low | ⟨-, high⟩
  · exact Nat.lt_trans low (by decide)
  · exact high

theorem spellsChar_codeEscape (c : Char) : SpellsChar (codeEscape c.toNat) c := by
  have bound := toNat_lt c
  unfold codeEscape
  by_cases basic : c.toNat ≤ 0xFFFF
  · rw [if_pos basic]
    exact .unit (spellsUnit_hexDigits (by omega))
  · rw [if_neg basic]
    exact .pair (by omega) (by omega) (spellsUnit_hexDigits (by omega)) (spellsUnit_hexDigits (by omega))
      (by omega)

theorem spellsChar_encodeChar (c : Char) : SpellsChar (encodeChar c) c := by
  unfold encodeChar
  split_ifs with marked newline ret tab backspace feed visible
  · simp only [Bool.or_eq_true, decide_eq_true_eq] at marked
    rcases marked with rfl | rfl <;> exact .short (by decide)
  · exact newline ▸ .short (by decide)
  · exact ret ▸ .short (by decide)
  · exact tab ▸ .short (by decide)
  · exact backspace ▸ .short (by decide)
  · exact feed ▸ .short (by decide)
  · simp only [Bool.and_eq_true, decide_eq_true_eq] at visible
    simp only [Bool.or_eq_true, decide_eq_true_eq, not_or] at marked
    exact .plain visible.1 marked.1 marked.2
  · exact spellsChar_codeEscape c

theorem spellsString_encodeString (text : String) : SpellsString (encodeString text) text := by
  rw [encodeString, List.flatMap_def]
  refine .quoted ?_
  rw [List.forall₂_map_left_iff, List.forall₂_same]
  intro c _
  exact spellsChar_encodeChar c

theorem wholeDigits_toDigits (n : Nat) : WholeDigits (Nat.toDigits 10 n) := by
  refine ⟨⟨Nat.toDigits_ne_nil, fun c h => Nat.isDigit_of_mem_toDigits (by decide) (by decide) h⟩, ?_⟩
  induction n using Nat.strongRecOn with
  | ind n ih =>
      intro leading
      by_cases small : n < 10
      · rw [Nat.toDigits_of_lt_base small] at leading ⊢
        rw [List.head?_cons, Option.some.injEq] at leading
        rw [leading]
      · -- A leading zero would already lead the digits of `n / 10`, which is not zero.
        rw [Nat.toDigits_of_base_le (by decide) (by omega), List.head?_append_of_ne_nil _ Nat.toDigits_ne_nil]
          at leading
        have zero := congrArg (Nat.ofDigitChars 10 · 0) (ih (n / 10) (by omega) leading)
        simp only [Nat.ofDigitChars_ten_toDigits] at zero
        have : n / 10 = 0 := zero
        omega

theorem toList_toString (mantissa : Int) :
    (toString mantissa).toList =
      (if decide (mantissa < 0) = true then ['-'] else []) ++ Nat.toDigits 10 mantissa.natAbs := by
  cases mantissa with
  | ofNat n => simp [toString, Int.repr]
  | negSucc n => simp [toString, Int.repr]

theorem signed_natAbs (mantissa : Int) (zeros : Nat) :
    signed (decide (mantissa < 0)) (List.replicate zeros '0' ++ Nat.toDigits 10 mantissa.natAbs) =
      mantissa := by
  simp only [signed, Nat.ofDigitChars_append, Nat.ofDigitChars_replicate_zero, Nat.mul_zero,
    Nat.ofDigitChars_ten_toDigits, decide_eq_true_eq]
  split <;> omega

theorem scaled_zero (mantissa : Int) (places : Nat) : scaled mantissa places 0 = .number mantissa places := by
  simp [scaled]

theorem isDigit_padded {digits : List Char} (whole : WholeDigits digits) (zeros : Nat) :
    ∀ c ∈ List.replicate zeros '0' ++ digits, c.isDigit = true := by
  intro c mem
  rcases List.mem_append.mp mem with zero | digit
  · rw [List.eq_of_mem_replicate zero]
    rfl
  · exact whole.1.2 c digit

/-- The digits before the point: a single zero where there are too few for the places after it. -/
theorem wholeDigits_take_padded {digits : List Char} {decimals : Nat} (whole : WholeDigits digits)
    (fractional : decimals ≠ 0) :
    let padded := List.replicate (decimals + 1 - digits.length) '0' ++ digits
    WholeDigits (padded.take (padded.length - decimals)) := by
  intro padded
  have length : padded.length = decimals + 1 - digits.length + digits.length := by simp [padded]
  refine ⟨⟨?_, fun c mem => isDigit_padded whole _ c (List.mem_of_mem_take mem)⟩, fun leading => ?_⟩
  · rw [Ne, List.take_eq_nil_iff, ← List.length_eq_zero_iff]
    omega
  · by_cases few : digits.length ≤ decimals
    · have split : padded = '0' :: (List.replicate (decimals - digits.length) '0' ++ digits) := by
        rw [← List.cons_append, ← List.replicate_succ, ← Nat.sub_add_comm few]
      rw [show padded.length - decimals = 1 by omega, split]
      rfl
    · have unpadded : padded = digits := by
        simp [padded, show decimals + 1 - digits.length = 0 by omega]
      rw [unpadded, List.head?_take, if_neg (by omega)] at leading
      have single : digits.length = 1 := by rw [whole.2 leading]; rfl
      omega

theorem spellsNumber_encodeNumber (mantissa : Int) (decimals : Nat) :
    SpellsNumber (encodeNumber mantissa decimals) (.number mantissa decimals) := by
  have whole := wholeDigits_toDigits mantissa.natAbs
  unfold encodeNumber
  by_cases integral : decimals = 0
  · subst integral
    have spelled := SpellsNumber.decimal (decide (mantissa < 0)) whole .absent .absent
    have value := signed_natAbs mantissa 0
    rw [List.replicate_zero, List.nil_append] at value
    rw [List.append_nil, List.append_nil, List.append_nil, value, List.length_nil, scaled_zero,
      ← toList_toString] at spelled
    rwa [if_pos rfl]
  · rw [if_neg integral]
    extract_lets digits padded split
    have places : (padded.drop split).length = decimals := by
      have long : padded.length = decimals + 1 - digits.length + digits.length := by simp [padded]
      rw [List.length_drop]
      omega
    have point : Digits (padded.drop split) :=
      ⟨by rw [← List.length_pos_iff]; omega, fun c mem => isDigit_padded whole _ c (List.mem_of_mem_drop mem)⟩
    have spelled := SpellsNumber.decimal (decide (mantissa < 0)) (wholeDigits_take_padded whole integral)
      (.present point) .absent
    rw [List.take_append_drop, signed_natAbs, places, scaled_zero, List.append_nil] at spelled
    simpa only [decide_eq_true_eq] using spelled

/-- Induction over a value: what holds of all its members holds of the value. -/
@[elab_as_elim]
theorem rec_members {motive : Json → Prop} (null : motive .null) (bool : ∀ value, motive (.bool value))
    (number : ∀ mantissa decimals, motive (.number mantissa decimals))
    (string : ∀ value, motive (.string value))
    (array : ∀ items, (∀ item ∈ items, motive item) → motive (.array items))
    (object : ∀ fields, (∀ field ∈ fields, motive field.2) → motive (.object fields)) :
    (value : Json) → motive value
  | .null => null
  | .bool value => bool value
  | .number mantissa decimals => number mantissa decimals
  | .string value => string value
  | .array items => array items fun item _ => rec_members null bool number string array object item
  | .object fields => object fields fun field _ => rec_members null bool number string array object field.2
termination_by value => sizeOf value
decreasing_by
  · have := List.sizeOf_lt_of_mem ‹_›
    simp only [Json.array.sizeOf_spec]
    omega
  · have := List.sizeOf_lt_of_mem ‹_›
    obtain ⟨name, value⟩ := field
    simp only [Prod.mk.sizeOf_spec, Json.object.sizeOf_spec] at this ⊢
    omega

theorem blank_newLine (level : Nat) : Blank (newLine level) := by
  intro c mem
  rcases List.mem_cons.mp mem with rfl | mem
  · rfl
  · rw [List.eq_of_mem_replicate mem]
    rfl

theorem spellsField_encode {level : Nat} {field : String × Json}
    (spelled : Spells (encode level field.2) field.2) :
    SpellsField Spells (encodeString field.1 ++ [':', ' '] ++ encode level field.2) field := by
  have field := SpellsField.named (spellsString_encodeString field.1) (List.forall_mem_nil _)
    (show Blank [' '] by simp [Blank, isBlank]) spelled
  simpa using field

/-- The items of an array, the last one followed by the line end before the bracket. -/
theorem series_encodeItems {level : Nat} {after : List Char} (blank : Blank after) {item : Json}
    {items : List Json} (spelled : ∀ member ∈ item :: items, Spells (encode level member) member) :
    Series Spells (newLine level ++ encode level item ++ encodeItems level items ++ after) (item :: items) := by
  induction items generalizing item with
  | nil =>
      have last := Series.last (blank_newLine level) (spelled item (by simp)) blank
      simpa [encodeItems] using last
  | cons next items ih =>
      have more := Series.more (blank_newLine level) (spelled item (by simp)) (List.forall_mem_nil _)
        (ih fun member mem => spelled member (List.mem_cons_of_mem _ mem))
      simpa [encodeItems] using more

theorem series_encodeFields {level : Nat} {after : List Char} (blank : Blank after) {field : String × Json}
    {fields : List (String × Json)}
    (spelled : ∀ member ∈ field :: fields, Spells (encode level member.2) member.2) :
    Series (SpellsField Spells) (newLine level ++ encodeString field.1 ++ [':', ' '] ++ encode level field.2 ++
      encodeFields level fields ++ after) (field :: fields) := by
  induction fields generalizing field with
  | nil =>
      have last := Series.last (blank_newLine level) (spellsField_encode (spelled field (by simp))) blank
      simpa [encodeFields] using last
  | cons next fields ih =>
      have more := Series.more (blank_newLine level) (spellsField_encode (spelled field (by simp)))
        (List.forall_mem_nil _) (ih fun member mem => spelled member (List.mem_cons_of_mem _ mem))
      simpa [encodeFields] using more

theorem spells_encode (level : Nat) (value : Json) : Spells (encode level value) value := by
  induction value using rec_members generalizing level with
  | null => exact .null
  | bool value => cases value <;> constructor
  | number mantissa decimals => exact .number (spellsNumber_encodeNumber mantissa decimals)
  | string value => exact .string (spellsString_encodeString value)
  | array items ih =>
      cases items with
      | nil => exact .noItems (List.forall_mem_nil _)
      | cons item items =>
          have series := series_encodeItems (blank_newLine level) fun member mem => ih member mem (level + 1)
          simpa [encode] using Spells.array series
  | object fields ih =>
      cases fields with
      | nil => exact .noFields (List.forall_mem_nil _)
      | cons field fields =>
          have series := series_encodeFields (blank_newLine level) fun member mem => ih member mem (level + 1)
          simpa [encode] using Spells.object series

/-! ## ASCII -/

def Ascii (text : List Char) : Prop :=
  ∀ c ∈ text, c.toNat < 0x80

@[simp]
theorem ascii_nil : Ascii [] :=
  List.forall_mem_nil _

@[simp]
theorem ascii_cons {c : Char} {text : List Char} : Ascii (c :: text) ↔ c.toNat < 0x80 ∧ Ascii text :=
  List.forall_mem_cons

@[simp]
theorem ascii_append {left right : List Char} : Ascii (left ++ right) ↔ Ascii left ∧ Ascii right :=
  List.forall_mem_append

theorem toNat_lt_of_hexValue? {c : Char} {value : Nat} (digit : hexValue? c = some value) : c.toNat < 0x80 := by
  unfold hexValue? at digit
  split_ifs at digit <;> omega

theorem SpellsUnit.ascii {digits : List Char} {unit : Nat} (spelled : SpellsUnit digits unit) : Ascii digits := by
  obtain ⟨first, second, third, fourth⟩ := spelled
  simp [toNat_lt_of_hexValue? first, toNat_lt_of_hexValue? second, toNat_lt_of_hexValue? third,
    toNat_lt_of_hexValue? fourth]

theorem ascii_unitEscape {unit : Nat} (small : unit < 0x10000) : Ascii (unitEscape unit) := by
  simp [unitEscape, (spellsUnit_hexDigits small).ascii]

theorem ascii_codeEscape {code : Nat} (small : code < 0x110000) : Ascii (codeEscape code) := by
  unfold codeEscape
  by_cases basic : code ≤ 0xFFFF
  · rw [if_pos basic]
    exact ascii_unitEscape (by omega)
  · rw [if_neg basic]
    exact ascii_append.mpr ⟨ascii_unitEscape (by omega), ascii_unitEscape (by omega)⟩

theorem ascii_encodeChar (c : Char) : Ascii (encodeChar c) := by
  unfold encodeChar
  split_ifs with marked newline ret tab backspace feed visible
  · simp only [Bool.or_eq_true, decide_eq_true_eq] at marked
    rcases marked with rfl | rfl <;> simp
  iterate 5 simp
  · simp only [Bool.and_eq_true, decide_eq_true_eq] at visible
    simp only [ascii_cons, ascii_nil, and_true]
    omega
  · exact ascii_codeEscape (toNat_lt c)

theorem ascii_encodeString (text : String) : Ascii (encodeString text) := by
  simp only [encodeString, List.cons_append, ascii_cons, ascii_append, ascii_nil, and_true]
  refine ⟨by decide, fun c mem => ?_, by decide⟩
  obtain ⟨source, -, written⟩ := List.mem_flatMap.mp mem
  exact ascii_encodeChar source c written

theorem ascii_digits {text : List Char} (digits : ∀ c ∈ text, c.isDigit = true) : Ascii text := by
  intro c mem
  have := digits c mem
  simp only [Char.isDigit, Bool.and_eq_true, decide_eq_true_eq, ge_iff_le, UInt32.le_iff_toNat_le] at this
  exact Nat.lt_of_le_of_lt this.2 (by decide)

theorem SpellsExponent.ascii {text : List Char} {exponent : Int} (spelled : SpellsExponent text exponent) :
    Ascii text := by
  cases spelled with
  | absent => exact ascii_nil
  | present marked direction some =>
      have digits := ascii_digits some.2
      rcases marked with rfl | rfl <;> cases direction <;> simp [digits]

theorem SpellsNumber.ascii {text : List Char} {value : Json} (spelled : SpellsNumber text value) :
    Ascii text := by
  obtain ⟨negative, leading, point, scale⟩ := spelled
  have whole := ascii_digits leading.1.2
  cases point with
  | absent => cases negative <;> simp [whole, scale.ascii]
  | present some => cases negative <;> simp [whole, scale.ascii, ascii_digits some.2]

theorem ascii_newLine (level : Nat) : Ascii (newLine level) := by
  rw [newLine, ascii_cons]
  refine ⟨by decide, fun c mem => ?_⟩
  rw [List.eq_of_mem_replicate mem]
  decide

theorem ascii_encodeItems {level : Nat} {items : List Json}
    (ascii : ∀ item ∈ items, Ascii (encode level item)) : Ascii (encodeItems level items) := by
  induction items with
  | nil => exact ascii_nil
  | cons item items ih =>
      obtain ⟨first, rest⟩ := List.forall_mem_cons.mp ascii
      simp [encodeItems, ascii_newLine, first, ih rest]

theorem ascii_encodeFields {level : Nat} {fields : List (String × Json)}
    (ascii : ∀ field ∈ fields, Ascii (encode level field.2)) : Ascii (encodeFields level fields) := by
  induction fields with
  | nil => exact ascii_nil
  | cons field fields ih =>
      obtain ⟨first, rest⟩ := List.forall_mem_cons.mp ascii
      simp [encodeFields, ascii_newLine, ascii_encodeString, first, ih rest]

theorem ascii_encode (level : Nat) (value : Json) : Ascii (encode level value) := by
  induction value using rec_members generalizing level with
  | null => simp [encode]
  | bool value => cases value <;> simp [encode]
  | number mantissa decimals => exact (spellsNumber_encodeNumber mantissa decimals).ascii
  | string value => exact ascii_encodeString value
  | array items ih =>
      cases items with
      | nil => simp [encode]
      | cons item items =>
          obtain ⟨first, rest⟩ := List.forall_mem_cons.mp fun member mem => ih member mem (level + 1)
          simp [encode, ascii_newLine, first, ascii_encodeItems rest]
  | object fields ih =>
      cases fields with
      | nil => simp [encode]
      | cons field fields =>
          obtain ⟨first, rest⟩ := List.forall_mem_cons.mp fun member mem => ih member mem (level + 1)
          simp [encode, ascii_newLine, ascii_encodeString, first, ascii_encodeFields rest]

end ContractScan.Json
