import ContractScan.Proofs.Json.Grammar
import ContractScan.Proofs.Text.Encoding

/-!
# Reading JSON

A reader of whole documents. Each part reads off the front of a text and returns what is left. The reader
accepts exactly the documents of the grammar and returns the value they spell, so that a text spells one value
at most.
-/

namespace ContractScan.Json

open Text.Utf8

/-- What is read off the front of a text is spelled there. -/
def Sound {α : Type} (read : List Char → Option (α × List Char)) (SpellsIt : List Char → α → Prop) : Prop :=
  ∀ {text rest : List Char} {value : α}, read text = some (value, rest) →
    ∃ spelled, text = spelled ++ rest ∧ SpellsIt spelled value

/-! ## Blanks -/

/-- The text after its leading blanks. -/
def skip (text : List Char) : List Char :=
  text.dropWhile isBlank

theorem exists_blank_append_skip (text : List Char) : ∃ before, Blank before ∧ text = before ++ skip text :=
  ⟨text.takeWhile isBlank, fun _ mem => List.mem_takeWhile_imp mem, List.takeWhile_append_dropWhile.symm⟩

theorem skip_append {before : List Char} (blank : Blank before) (text : List Char) :
    skip (before ++ text) = skip text :=
  List.dropWhile_append_of_pos blank

theorem skip_cons {c : Char} (visible : isBlank c = false) (rest : List Char) :
    skip (c :: rest) = c :: rest := by
  simp [skip, visible]

theorem skip_eq_nil_iff {text : List Char} : skip text = [] ↔ Blank text :=
  List.dropWhile_eq_nil_iff

/-! ## Strings -/

def readUnit? : List Char → Option (Nat × List Char)
  | a :: b :: c :: d :: rest => do
      let w ← hexValue? a
      let x ← hexValue? b
      let y ← hexValue? c
      let z ← hexValue? d
      return (((w * 16 + x) * 16 + y) * 16 + z, rest)
  | _ => none

/-- Reads the code of a character behind its mark, as one unit or as two surrogates. -/
def readCode? (text : List Char) : Option (Char × List Char) := do
  let (unit, rest) ← readUnit? text
  if unit < 0xD800 ∨ 0xDFFF < unit then
    return (Char.ofNat unit, rest)
  else
    -- A high surrogate stands for a character with the low one behind it only.
    let rest ← ['\\', 'u'].isPrefixOf? rest
    let (low, rest) ← readUnit? rest
    if unit < 0xDC00 ∧ 0xDC00 ≤ low ∧ low ≤ 0xDFFF then
      return (Char.ofNat (0x10000 + (unit - 0xD800) * 0x400 + (low - 0xDC00)), rest)
    else none

/-- Reads an escape behind its backslash. -/
def readEscape? : List Char → Option (Char × List Char)
  | [] => none
  | mark :: rest =>
    if mark = 'u' then readCode? rest else (shortEscapes.lookup mark).map fun c => (c, rest)

def readChar? : List Char → Option (Char × List Char)
  | [] => none
  | c :: rest =>
    if c = '\\' then readEscape? rest
    else if c = '\x22' ∨ c.toNat < 0x20 then none
    else some (c, rest)

/-- Reads characters up to the closing quote. -/
def readChars? : Nat → List Char → Option (List Char × List Char)
  | 0, _ => none
  | fuel + 1, text =>
    if text.head? = some '\x22' then some ([], text.tail)
    else do
      let (c, rest) ← readChar? text
      let (chars, rest) ← readChars? fuel rest
      return (c :: chars, rest)

def readString? (text : List Char) : Option (String × List Char) := do
  let rest ← ['\x22'].isPrefixOf? text
  let (chars, rest) ← readChars? rest.length rest
  return (String.ofList chars, rest)

theorem hexValue?_lt {c : Char} {value : Nat} (h : hexValue? c = some value) : value < 16 := by
  unfold hexValue? at h
  split_ifs at h <;> cases h <;> omega

theorem SpellsUnit.lt {digits : List Char} {unit : Nat} (spelled : SpellsUnit digits unit) : unit < 0x10000 := by
  obtain ⟨first, second, third, fourth⟩ := spelled
  have := hexValue?_lt first
  have := hexValue?_lt second
  have := hexValue?_lt third
  have := hexValue?_lt fourth
  omega

theorem readUnit?_append {digits : List Char} {unit : Nat} (spelled : SpellsUnit digits unit) (rest : List Char) :
    readUnit? (digits ++ rest) = some (unit, rest) := by
  obtain ⟨first, second, third, fourth⟩ := spelled
  simp [readUnit?, first, second, third, fourth]

theorem readUnit?_sound : Sound readUnit? SpellsUnit := by
  intro text rest unit read
  unfold readUnit? at read
  split at read
  · simp only [Option.bind_eq_bind, Option.bind_eq_some_iff, Option.pure_def, Option.some.injEq,
      Prod.mk.injEq] at read
    obtain ⟨w, first, x, second, y, third, z, fourth, rfl, rfl⟩ := read
    exact ⟨_, rfl, .four first second third fourth⟩
  · cases read

theorem readCode?_unit {digits : List Char} {c : Char} (spelled : SpellsUnit digits c.toNat) (rest : List Char) :
    readCode? (digits ++ rest) = some (c, rest) := by
  have scalar : c.toNat < 0xD800 ∨ 0xDFFF < c.toNat := c.valid.imp_right And.left
  simp [readCode?, readUnit?_append spelled, scalar]

theorem readCode?_pair {upper lower : List Char} {c : Char} {high low : Nat} (highSmall : high < 0x400)
    (lowSmall : low < 0x400) (first : SpellsUnit upper (0xD800 + high))
    (second : SpellsUnit lower (0xDC00 + low)) (code : c.toNat = 0x10000 + high * 0x400 + low)
    (rest : List Char) : readCode? (upper ++ '\\' :: 'u' :: lower ++ rest) = some (c, rest) := by
  have surrogate : ¬ (0xD800 + high < 0xD800 ∨ 0xDFFF < 0xD800 + high) := by omega
  have paired : 0xD800 + high < 0xDC00 ∧ 0xDC00 ≤ 0xDC00 + low ∧ 0xDC00 + low ≤ 0xDFFF := by omega
  have mark : ['\\', 'u'].isPrefixOf? ('\\' :: 'u' :: (lower ++ rest)) = some (lower ++ rest) :=
    List.isPrefixOf?_eq_some_iff_append_eq.mpr rfl
  rw [List.append_assoc, List.cons_append, List.cons_append]
  simp only [readCode?, readUnit?_append first, readUnit?_append second, mark, if_neg surrogate, if_pos paired,
    Option.bind_eq_bind, Option.bind_some, Option.pure_def, Nat.add_sub_cancel_left]
  rw [← code, Char.ofNat_toNat]

theorem lookup_shortEscapes {mark c : Char} (listed : (mark, c) ∈ shortEscapes) :
    mark ≠ 'u' ∧ shortEscapes.lookup mark = some c := by
  simp only [shortEscapes, List.mem_cons, Prod.mk.injEq, List.not_mem_nil, or_false] at listed
  rcases listed with h | h | h | h | h | h | h | h <;> obtain ⟨rfl, rfl⟩ := h <;> exact ⟨by decide, rfl⟩

theorem readChar?_append {spelled : List Char} {c : Char} (spells : SpellsChar spelled c) (rest : List Char) :
    readChar? (spelled ++ rest) = some (c, rest) := by
  cases spells with
  | plain visible quote backslash => simp [readChar?, quote, backslash, Nat.not_lt.mpr visible]
  | short listed =>
      obtain ⟨other, found⟩ := lookup_shortEscapes listed
      simp [readChar?, readEscape?, other, found]
  | unit unit => simpa [readChar?, readEscape?] using readCode?_unit unit rest
  | pair highSmall lowSmall first second code =>
      simpa [readChar?, readEscape?] using readCode?_pair highSmall lowSmall first second code rest

theorem readCode?_sound {text rest : List Char} {c : Char} (read : readCode? text = some (c, rest)) :
    ∃ digits, text = digits ++ rest ∧ SpellsChar ('\\' :: 'u' :: digits) c := by
  unfold readCode? at read
  simp only [Option.bind_eq_bind, Option.bind_eq_some_iff, Option.pure_def] at read
  obtain ⟨⟨unit, others⟩, first, read⟩ := read
  obtain ⟨upper, rfl, spelled⟩ := readUnit?_sound first
  by_cases scalar : unit < 0xD800 ∨ 0xDFFF < unit
  · simp only [if_pos scalar, Option.some.injEq, Prod.mk.injEq] at read
    obtain ⟨rfl, rfl⟩ := read
    have valid : unit.isValidChar := scalar.imp_right fun above => ⟨above, Nat.lt_trans spelled.lt (by decide)⟩
    have code : (Char.ofNat unit).toNat = unit := by
      rw [Char.toNat_ofNat, if_pos valid]
    exact ⟨upper, rfl, .unit (code.symm ▸ spelled)⟩
  · simp only [if_neg scalar, Option.bind_eq_some_iff, List.isPrefixOf?_eq_some_iff_append_eq] at read
    obtain ⟨others, rfl, ⟨low, others⟩, second, read⟩ := read
    obtain ⟨lower, rfl, spelled'⟩ := readUnit?_sound second
    by_cases paired : unit < 0xDC00 ∧ 0xDC00 ≤ low ∧ low ≤ 0xDFFF
    · simp only [if_pos paired, Option.some.injEq, Prod.mk.injEq] at read
      obtain ⟨rfl, rfl⟩ := read
      obtain ⟨high, rfl⟩ : ∃ high, unit = 0xD800 + high := ⟨unit - 0xD800, by omega⟩
      obtain ⟨low, rfl⟩ : ∃ offset, low = 0xDC00 + offset := ⟨low - 0xDC00, by omega⟩
      simp only [Nat.add_sub_cancel_left]
      refine ⟨upper ++ '\\' :: 'u' :: lower, by simp, .pair (by omega) (by omega) spelled spelled' ?_⟩
      rw [Char.toNat_ofNat, if_pos (.inr ⟨by omega, by omega⟩)]
    · simp [if_neg paired] at read

theorem readEscape?_sound {text rest : List Char} {c : Char} (read : readEscape? text = some (c, rest)) :
    ∃ escape, text = escape ++ rest ∧ SpellsChar ('\\' :: escape) c := by
  cases text with
  | nil => cases read
  | cons mark text =>
      rw [readEscape?] at read
      split_ifs at read with unit
      · obtain ⟨digits, rfl, spelled⟩ := readCode?_sound read
        exact ⟨mark :: digits, rfl, unit ▸ spelled⟩
      · obtain ⟨found, listed, same⟩ := Option.map_eq_some_iff.mp read
        obtain ⟨rfl, rfl⟩ := Prod.mk.inj same
        obtain ⟨before, after, split, -⟩ := List.lookup_eq_some_iff.mp listed
        exact ⟨[mark], rfl, .short (by simp [split])⟩

theorem readChar?_sound : Sound readChar? SpellsChar := by
  intro text rest c read
  cases text with
  | nil => cases read
  | cons first text =>
      rw [readChar?] at read
      split_ifs at read with backslash barred
      · obtain ⟨escape, rfl, spelled⟩ := readEscape?_sound read
        exact ⟨first :: escape, rfl, backslash ▸ spelled⟩
      · obtain ⟨rfl, rfl⟩ := Prod.mk.inj (Option.some.inj read)
        rw [not_or, Nat.not_lt] at barred
        exact ⟨[first], rfl, .plain barred.2 barred.1 backslash⟩

theorem SpellsChar.exists_cons {spelled : List Char} {c : Char} (spells : SpellsChar spelled c) :
    ∃ first others, spelled = first :: others ∧ first ≠ '\x22' := by
  cases spells with
  | plain visible quote backslash => exact ⟨_, _, rfl, quote⟩
  | short | unit | pair => exact ⟨_, _, rfl, by decide⟩

theorem length_le_length_flatten {pieces : List (List Char)} {chars : List Char}
    (spelled : List.Forall₂ SpellsChar pieces chars) : pieces.length ≤ pieces.flatten.length := by
  induction spelled with
  | nil => simp
  | cons one others ih =>
      obtain ⟨first, more, rfl, -⟩ := one.exists_cons
      simp only [List.length_cons, List.flatten_cons, List.length_append]
      omega

theorem readChars?_append {pieces : List (List Char)} {chars : List Char}
    (spelled : List.Forall₂ SpellsChar pieces chars) {fuel : Nat} (enough : pieces.length < fuel)
    (rest : List Char) : readChars? fuel (pieces.flatten ++ '\x22' :: rest) = some (chars, rest) := by
  obtain ⟨fuel, rfl⟩ := Nat.exists_eq_add_one_of_ne_zero (Nat.ne_zero_of_lt enough)
  induction spelled generalizing fuel with
  | nil => rfl
  | cons one others ih =>
      obtain ⟨fuel, rfl⟩ := Nat.exists_eq_add_one_of_ne_zero (Nat.ne_zero_of_lt (Nat.lt_of_succ_lt_succ enough))
      have next := readChar?_append one
      obtain ⟨first, more, rfl, quote⟩ := one.exists_cons
      rw [readChars?, if_neg (by simpa using quote), List.flatten_cons, List.append_assoc, next]
      simp [ih fuel (Nat.lt_of_succ_lt_succ enough)]

theorem readChars?_sound {fuel : Nat} {text chars rest : List Char}
    (read : readChars? fuel text = some (chars, rest)) :
    ∃ pieces, text = pieces.flatten ++ '\x22' :: rest ∧ List.Forall₂ SpellsChar pieces chars := by
  induction fuel generalizing text chars with
  | zero => cases read
  | succ fuel ih =>
      rw [readChars?] at read
      split_ifs at read with quote
      · obtain ⟨rfl, rfl⟩ := Prod.mk.inj (Option.some.inj read)
        exact ⟨[], by simpa using (List.cons_head?_tail quote).symm, .nil⟩
      · simp only [Option.bind_eq_bind, Option.bind_eq_some_iff, Option.pure_def, Option.some.injEq,
          Prod.mk.injEq, Prod.exists] at read
        obtain ⟨c, others, first, chars, rest, more, rfl, rfl⟩ := read
        obtain ⟨spelled, rfl, one⟩ := readChar?_sound first
        obtain ⟨pieces, rfl, several⟩ := ih more
        exact ⟨spelled :: pieces, by simp, .cons one several⟩

theorem readString?_append {spelled : List Char} {value : String} (spells : SpellsString spelled value)
    (rest : List Char) : readString? (spelled ++ rest) = some (value, rest) := by
  obtain @⟨pieces, _, several⟩ := spells
  have enough : pieces.length < (pieces.flatten ++ '\x22' :: rest).length := by
    have := length_le_length_flatten several
    rw [List.length_append, List.length_cons]
    omega
  have opened : ['\x22'].isPrefixOf? ('\x22' :: pieces.flatten ++ ['\x22'] ++ rest) =
      some (pieces.flatten ++ '\x22' :: rest) :=
    List.isPrefixOf?_eq_some_iff_append_eq.mpr (by simp)
  rw [readString?, opened, Option.bind_eq_bind, Option.bind_some, readChars?_append several enough]
  simp

theorem readString?_sound : Sound readString? SpellsString := by
  intro text rest value read
  simp only [readString?, Option.bind_eq_bind, Option.bind_eq_some_iff, Option.pure_def, Option.some.injEq,
    Prod.mk.injEq, Prod.exists, List.isPrefixOf?_eq_some_iff_append_eq] at read
  obtain ⟨others, rfl, chars, rest, inside, rfl, rfl⟩ := read
  obtain ⟨pieces, rfl, several⟩ := readChars?_sound inside
  refine ⟨'\x22' :: pieces.flatten ++ ['\x22'], by simp, .quoted ?_⟩
  rwa [String.toList_ofList]

/-! ## Numbers -/

def readDigits? (text : List Char) : Option (List Char × List Char) :=
  let digits := text.takeWhile Char.isDigit
  if digits = [] then none else some (digits, text.dropWhile Char.isDigit)

def readFraction? (text : List Char) : Option (List Char × List Char) :=
  match ['.'].isPrefixOf? text with
  | none => some ([], text)
  | some rest => readDigits? rest

def readSign : List Char → Bool × List Char
  | [] => (false, [])
  | c :: rest => if c = '-' then (true, rest) else if c = '+' then (false, rest) else (false, c :: rest)

def readExponent? : List Char → Option (Int × List Char)
  | [] => some (0, [])
  | c :: rest =>
    if c = 'e' ∨ c = 'E' then do
      let (digits, others) ← readDigits? (readSign rest).2
      return (signed (readSign rest).1 digits, others)
    else some (0, c :: rest)

/-- Reads a number from its first digit on. -/
def readUnsigned? (negative : Bool) (text : List Char) : Option (Json × List Char) := do
  let (whole, rest) ← readDigits? text
  if whole.head? = some '0' ∧ whole ≠ ['0'] then none
  else
    let (places, rest) ← readFraction? rest
    let (exponent, rest) ← readExponent? rest
    return (scaled (signed negative (whole ++ places)) places.length exponent, rest)

def readNumber? (text : List Char) : Option (Json × List Char) :=
  match ['-'].isPrefixOf? text with
  | none => readUnsigned? false text
  | some rest => readUnsigned? true rest

/-- No number goes on in the text. -/
def Stops (text : List Char) : Prop :=
  ∀ c ∈ text.head?, c.isDigit = false ∧ c ≠ '.' ∧ c ≠ 'e' ∧ c ≠ 'E'

theorem stops_nil : Stops [] := by
  intro c mem
  cases mem

theorem stops_cons {c : Char} (stop : c.isDigit = false ∧ c ≠ '.' ∧ c ≠ 'e' ∧ c ≠ 'E') (rest : List Char) :
    Stops (c :: rest) := by
  intro d mem
  rwa [← Option.some.inj mem]

theorem Stops.blank_append {blanks rest : List Char} (stops : Stops rest) (blank : Blank blanks) :
    Stops (blanks ++ rest) := by
  cases blanks with
  | nil => exact stops
  | cons c blanks =>
      have visible := blank c (by simp)
      simp only [isBlank, Bool.or_eq_true, decide_eq_true_eq, or_assoc] at visible
      rcases visible with rfl | rfl | rfl | rfl <;> exact stops_cons (by decide) _

theorem readDigits?_append {digits rest : List Char} (some : Digits digits)
    (stops : ∀ c ∈ rest.head?, c.isDigit = false) : readDigits? (digits ++ rest) = .some (digits, rest) := by
  have taken : rest.takeWhile Char.isDigit = [] ∧ rest.dropWhile Char.isDigit = rest := by
    cases rest with
    | nil => exact ⟨rfl, rfl⟩
    | cons c rest => simp [stops c rfl]
  rw [readDigits?, List.takeWhile_append_of_pos some.2, List.dropWhile_append_of_pos some.2, taken.1, taken.2,
    List.append_nil]
  exact if_neg some.1

theorem readDigits?_sound : Sound readDigits? fun text digits => text = digits ∧ Digits digits := by
  intro text rest digits read
  simp only [readDigits?] at read
  split_ifs at read with none
  obtain ⟨rfl, rfl⟩ := Prod.mk.inj (Option.some.inj read)
  exact ⟨_, List.takeWhile_append_dropWhile.symm, rfl, none, fun c mem => List.mem_takeWhile_imp mem⟩

theorem isPrefixOf?_cons (mark : Char) (rest : List Char) : [mark].isPrefixOf? (mark :: rest) = some rest :=
  List.isPrefixOf?_eq_some_iff_append_eq.mpr rfl

theorem isPrefixOf?_other {mark : Char} {text : List Char} (other : ∀ c ∈ text.head?, c ≠ mark) :
    [mark].isPrefixOf? text = none := by
  cases text with
  | nil => rfl
  | cons c rest => simp [List.isPrefixOf?, (other c rfl).symm]

theorem readFraction?_append {text places rest : List Char} (spelled : SpellsFraction text places)
    (stops : ∀ c ∈ rest.head?, c.isDigit = false ∧ c ≠ '.') :
    readFraction? (text ++ rest) = some (places, rest) := by
  cases spelled with
  | absent => rw [List.nil_append, readFraction?, isPrefixOf?_other fun c mem => (stops c mem).2]
  | present some =>
      rw [List.cons_append, readFraction?, isPrefixOf?_cons]
      exact readDigits?_append some fun c mem => (stops c mem).1

theorem readFraction?_sound : Sound readFraction? SpellsFraction := by
  intro text rest places read
  unfold readFraction? at read
  cases point : ['.'].isPrefixOf? text with
  | none =>
      rw [point] at read
      obtain ⟨rfl, rfl⟩ := Prod.mk.inj (Option.some.inj read)
      exact ⟨[], rfl, .absent⟩
  | some others =>
      rw [point] at read
      obtain ⟨digits, rfl, rfl, digits⟩ := readDigits?_sound read
      exact ⟨_, (List.isPrefixOf?_eq_some_iff_append_eq.mp point).symm, .present digits⟩

theorem Digits.exists_cons {digits : List Char} (some : Digits digits) :
    ∃ first others, digits = first :: others ∧ first.isDigit = true := by
  obtain ⟨first, others, rfl⟩ := List.exists_cons_of_ne_nil some.1
  exact ⟨first, others, rfl, some.2 first (by simp)⟩

theorem ne_of_isDigit {c mark : Char} (digit : c.isDigit = true) (other : mark.isDigit = false) : c ≠ mark := by
  rintro rfl
  rw [digit] at other
  cases other

theorem readSign_append {sign digits : List Char} {negative : Bool} (spelled : SpellsSign sign negative)
    (some : Digits digits) (rest : List Char) :
    readSign (sign ++ digits ++ rest) = (negative, digits ++ rest) := by
  obtain ⟨first, others, rfl, digit⟩ := some.exists_cons
  cases spelled with
  | absent =>
      have minus : first ≠ '-' := ne_of_isDigit digit rfl
      have plus : first ≠ '+' := ne_of_isDigit digit rfl
      simp [readSign, minus, plus]
  | plus | minus => simp [readSign]

theorem exists_readSign (text : List Char) :
    ∃ sign, text = sign ++ (readSign text).2 ∧ SpellsSign sign (readSign text).1 := by
  cases text with
  | nil => exact ⟨[], rfl, .absent⟩
  | cons c rest =>
      rw [readSign]
      split_ifs with minus plus
      · exact ⟨[c], rfl, minus ▸ .minus⟩
      · exact ⟨[c], rfl, plus ▸ .plus⟩
      · exact ⟨[], rfl, .absent⟩

theorem readExponent?_append {text rest : List Char} {exponent : Int} (spelled : SpellsExponent text exponent)
    (stops : Stops rest) : readExponent? (text ++ rest) = some (exponent, rest) := by
  cases spelled with
  | absent =>
      cases rest with
      | nil => rfl
      | cons c rest =>
          obtain ⟨-, -, lower, upper⟩ := stops c rfl
          simp [readExponent?, lower, upper]
  | present marked direction some =>
      have digits := readDigits?_append some fun c mem => (stops c mem).1
      rw [List.cons_append, List.cons_append, readExponent?, if_pos marked, readSign_append direction some]
      simp [digits]

theorem readExponent?_sound : Sound readExponent? SpellsExponent := by
  intro text rest exponent read
  cases text with
  | nil =>
      obtain ⟨rfl, rfl⟩ := Prod.mk.inj (Option.some.inj read)
      exact ⟨[], rfl, .absent⟩
  | cons c text =>
      rw [readExponent?] at read
      split_ifs at read with marked
      · simp only [Option.bind_eq_bind, Option.bind_eq_some_iff, Option.pure_def, Option.some.injEq,
          Prod.mk.injEq, Prod.exists] at read
        obtain ⟨digits, rest, inside, rfl, rfl⟩ := read
        obtain ⟨digits, split, rfl, some⟩ := readDigits?_sound inside
        obtain ⟨sign, whole, direction⟩ := exists_readSign text
        refine ⟨c :: sign ++ digits, ?_, .present marked direction some⟩
        rw [List.cons_append, List.cons_append, List.append_assoc, ← split, ← whole]
      · obtain ⟨rfl, rfl⟩ := Prod.mk.inj (Option.some.inj read)
        exact ⟨[], rfl, .absent⟩

/-- What can follow the digits after the point. -/
theorem SpellsExponent.head?_append {power rest : List Char} {exponent : Int}
    (scale : SpellsExponent power exponent) (stops : Stops rest) : ∀ c ∈ (power ++ rest).head?, c.isDigit = false ∧ c ≠ '.' := by
  intro c mem
  cases scale with
  | absent => exact ⟨(stops c mem).1, (stops c mem).2.1⟩
  | present marked direction some =>
      cases mem
      rcases marked with rfl | rfl <;> decide

/-- What can follow the digits before the point. -/
theorem SpellsFraction.head?_append {fraction places rest : List Char} (point : SpellsFraction fraction places)
    (stops : ∀ c ∈ rest.head?, c.isDigit = false) : ∀ c ∈ (fraction ++ rest).head?, c.isDigit = false := by
  intro c mem
  cases point with
  | absent => exact stops c mem
  | present some =>
      cases mem
      rfl

theorem readUnsigned?_append {whole fraction places power rest : List Char} {exponent : Int} (negative : Bool)
    (leading : WholeDigits whole) (point : SpellsFraction fraction places)
    (scale : SpellsExponent power exponent) (stops : Stops rest) :
    readUnsigned? negative (whole ++ fraction ++ power ++ rest) =
      some (scaled (signed negative (whole ++ places)) places.length exponent, rest) := by
  have third := scale.head?_append stops
  have second := point.head?_append fun c mem => (third c mem).1
  have allowed : ¬ (whole.head? = some '0' ∧ whole ≠ ['0']) := fun h => h.2 (leading.2 h.1)
  rw [List.append_assoc, List.append_assoc]
  simp only [readUnsigned?, readDigits?_append leading.1 second, readFraction?_append point third,
    readExponent?_append scale stops, if_neg allowed, Option.bind_eq_bind, Option.bind_some, Option.pure_def]

theorem readUnsigned?_sound (negative : Bool) :
    Sound (readUnsigned? negative) fun text value =>
      SpellsNumber ((if negative then ['-'] else []) ++ text) value := by
  intro text rest value read
  simp only [readUnsigned?, Option.bind_eq_bind, Option.bind_eq_some_iff, Option.pure_def, Prod.exists] at read
  obtain ⟨whole, others, first, read⟩ := read
  split_ifs at read with barred
  simp only [Option.bind_eq_some_iff, Option.some.injEq, Prod.mk.injEq, Prod.exists] at read
  obtain ⟨places, others, second, exponent, rest, third, rfl, rfl⟩ := read
  obtain ⟨whole, rfl, rfl, digits⟩ := readDigits?_sound first
  obtain ⟨fraction, rfl, point⟩ := readFraction?_sound second
  obtain ⟨power, rfl, scale⟩ := readExponent?_sound third
  have leading : WholeDigits whole := ⟨digits, fun zero => Decidable.not_not.mp fun more => barred ⟨zero, more⟩⟩
  refine ⟨whole ++ fraction ++ power, by simp, ?_⟩
  simpa only [List.append_assoc] using SpellsNumber.decimal negative leading point scale

theorem readNumber?_append {text rest : List Char} {value : Json} (spelled : SpellsNumber text value)
    (stops : Stops rest) : readNumber? (text ++ rest) = some (value, rest) := by
  obtain ⟨negative, leading, point, scale⟩ := spelled
  have read := readUnsigned?_append negative leading point scale stops
  cases negative with
  | true =>
      rw [readNumber?, if_pos rfl, List.cons_append, List.cons_append, List.cons_append, List.cons_append,
        isPrefixOf?_cons]
      exact read
  | false =>
      obtain ⟨first, others, rfl, digit⟩ := leading.1.exists_cons
      have unsigned (more : List Char) : ['-'].isPrefixOf? (first :: more) = none :=
        isPrefixOf?_other fun c mem => by
          cases mem
          exact ne_of_isDigit digit rfl
      rw [readNumber?, if_neg (by decide), List.nil_append]
      simp only [List.cons_append, unsigned] at read ⊢
      exact read

theorem readNumber?_sound : Sound readNumber? SpellsNumber := by
  intro text rest value read
  unfold readNumber? at read
  cases minus : ['-'].isPrefixOf? text with
  | none =>
      rw [minus] at read
      exact readUnsigned?_sound false read
  | some others =>
      rw [minus] at read
      obtain ⟨spelled, rfl, number⟩ := readUnsigned?_sound true read
      exact ⟨_, (List.isPrefixOf?_eq_some_iff_append_eq.mp minus).symm, number⟩

/-! ## Values -/

section Members

variable {α : Type}

/-- Reads members between commas up to the closing mark. -/
def readSeries? (readMember : List Char → Option (α × List Char)) (close : Char) :
    Nat → List Char → Option (List α × List Char)
  | 0, _ => none
  | fuel + 1, text => do
      let (member, rest) ← readMember (skip text)
      match skip rest with
      | [] => none
      | mark :: rest =>
        if mark = ',' then
          let (members, rest) ← readSeries? readMember close fuel rest
          return (member :: members, rest)
        else if mark = close then return ([member], rest)
        else none

/-- Reads members up to the closing mark, if there are any. -/
def readMembers? (readMember : List Char → Option (α × List Char)) (close : Char) (text : List Char) :
    Option (List α × List Char) :=
  match [close].isPrefixOf? (skip text) with
  | some rest => some ([], rest)
  | none => readSeries? readMember close text.length text

end Members

def readField? (readValue : List Char → Option (Json × List Char)) (text : List Char) :
    Option ((String × Json) × List Char) := do
  let (name, rest) ← readString? text
  let rest ← [':'].isPrefixOf? (skip rest)
  let (value, rest) ← readValue (skip rest)
  return ((name, value), rest)

/-- Reads a value with at most `depth` values inside each other. -/
def readValue? : Nat → List Char → Option (Json × List Char)
  | 0, _ => none
  | _ + 1, [] => none
  | depth + 1, c :: rest =>
    if c = '\x22' then (readString? (c :: rest)).map fun (value, rest) => (.string value, rest)
    else if c = '[' then
      (readMembers? (readValue? depth) ']' rest).map fun (items, rest) => (.array items, rest)
    else if c = '\x7b' then
      (readMembers? (readField? (readValue? depth)) '\x7d' rest).map fun (fields, rest) =>
        (.object fields, rest)
    else if c = 'n' then (['u', 'l', 'l'].isPrefixOf? rest).map fun rest => (.null, rest)
    else if c = 't' then (['r', 'u', 'e'].isPrefixOf? rest).map fun rest => (.bool true, rest)
    else if c = 'f' then (['a', 'l', 's', 'e'].isPrefixOf? rest).map fun rest => (.bool false, rest)
    else readNumber? (c :: rest)

def read? (text : String) : Option Json := do
  let (value, rest) ← readValue? text.length (skip text.toList)
  if skip rest = [] then some value else none

/-- What is spelled at the front of a text is read off, within a length, where no number goes on after it. -/
def Complete {α : Type} (read : List Char → Option (α × List Char)) (SpellsIt : List Char → α → Prop)
    (bound : Nat) : Prop :=
  ∀ {text rest : List Char} {value : α}, SpellsIt text value → text.length ≤ bound → Stops rest →
    read (text ++ rest) = some (value, rest)

/-- The text starts with neither a blank nor a closing mark. -/
def Opens (text : List Char) : Prop :=
  ∃ first others, text = first :: others ∧ isBlank first = false ∧ first ≠ ']' ∧ first ≠ '\x7d'

section Members

variable {α : Type} {SpellsMember : List Char → α → Prop} {readMember : List Char → Option (α × List Char)}

theorem Opens.skip_append {text : List Char} (opens : Opens text) (rest : List Char) :
    skip (text ++ rest) = text ++ rest := by
  obtain ⟨first, others, rfl, visible, -⟩ := opens
  exact skip_cons visible _

theorem Opens.length_pos {text : List Char} (opens : Opens text) : 0 < text.length := by
  obtain ⟨first, others, rfl, -⟩ := opens
  exact Nat.succ_pos _

/-- What follows a member is blank up to a mark, at which its reading stops. -/
theorem readMember_skip {bound : Nat} (opens : ∀ {text member}, SpellsMember text member → Opens text)
    (complete : Complete readMember SpellsMember bound) {before text after : List Char} {member : α}
    (left : Blank before) (one : SpellsMember text member) (right : Blank after) (short : text.length ≤ bound)
    {mark : Char} (visible : isBlank mark = false)
    (stop : mark.isDigit = false ∧ mark ≠ '.' ∧ mark ≠ 'e' ∧ mark ≠ 'E') (more : List Char) :
    readMember (skip (before ++ text ++ after ++ mark :: more)) = some (member, after ++ mark :: more) ∧
      skip (after ++ mark :: more) = mark :: more := by
  constructor
  · rw [List.append_assoc, List.append_assoc, skip_append left, (opens one).skip_append]
    exact complete one short ((stops_cons stop more).blank_append right)
  · rw [skip_append right, skip_cons visible]

theorem readSeries?_append {bound : Nat} (opens : ∀ {text member}, SpellsMember text member → Opens text)
    (complete : Complete readMember SpellsMember bound) {close : Char} (closing : close = ']' ∨ close = '\x7d')
    {text : List Char} {members : List α} (spelled : Series SpellsMember text members)
    (short : text.length ≤ bound) {fuel : Nat} (enough : text.length ≤ fuel) (rest : List Char) :
    readSeries? readMember close fuel (text ++ close :: rest) = some (members, rest) := by
  induction spelled generalizing fuel with
  | last left one right =>
      have := (opens one).length_pos
      simp only [List.length_append] at short enough
      obtain ⟨fuel, rfl⟩ := Nat.exists_eq_add_one_of_ne_zero (show fuel ≠ 0 by omega)
      have visible : isBlank close = false ∧ close ≠ ',' := by rcases closing with rfl | rfl <;> decide
      obtain ⟨read, next⟩ := readMember_skip opens complete left one right (by omega) visible.1
        (by rcases closing with rfl | rfl <;> decide) rest
      simp [readSeries?, -List.append_assoc, read, next, visible.2]
  | @more _ _ _ others _ _ left one right series ih =>
      have := (opens one).length_pos
      simp only [List.length_append, List.length_cons] at short enough
      obtain ⟨fuel, rfl⟩ := Nat.exists_eq_add_one_of_ne_zero (show fuel ≠ 0 by omega)
      have inner := ih (by omega) (show others.length ≤ fuel by omega)
      obtain ⟨read, next⟩ := readMember_skip opens complete left one right (by omega)
        (show isBlank ',' = false from rfl) (by decide) (others ++ close :: rest)
      rw [List.append_assoc, List.cons_append]
      simp [readSeries?, -List.append_assoc, read, next, inner]

theorem readSeries?_sound (sound : Sound readMember SpellsMember) {close : Char} {fuel : Nat}
    {text rest : List Char} {members : List α}
    (read : readSeries? readMember close fuel text = some (members, rest)) :
    ∃ spelled, text = spelled ++ close :: rest ∧ Series SpellsMember spelled members := by
  induction fuel generalizing text members with
  | zero => cases read
  | succ fuel ih =>
      simp only [readSeries?, Option.bind_eq_bind, Option.bind_eq_some_iff, Prod.exists] at read
      obtain ⟨member, others, first, read⟩ := read
      obtain ⟨before, left, split⟩ := exists_blank_append_skip text
      obtain ⟨after, right, split'⟩ := exists_blank_append_skip others
      obtain ⟨spelled, whole, one⟩ := sound first
      cases marked : skip others with
      | nil =>
          rw [marked] at read
          cases read
      | cons mark others =>
          rw [marked] at read split'
          rw [whole, split'] at split
          simp only [Option.pure_def] at read
          split_ifs at read with comma closed
          · simp only [Option.bind_eq_some_iff, Option.some.injEq, Prod.mk.injEq, Prod.exists] at read
            obtain ⟨members, rest, inner, rfl, rfl⟩ := read
            obtain ⟨more, rfl, series⟩ := ih inner
            exact ⟨_, by rw [split, comma]; simp, .more left one right series⟩
          · obtain ⟨rfl, rfl⟩ := Prod.mk.inj (Option.some.inj read)
            exact ⟨_, by rw [split, closed]; simp, .last left one right⟩

theorem readMembers?_blank (readMember : List Char → Option (α × List Char)) {blanks : List Char}
    (blank : Blank blanks) {close : Char} (visible : isBlank close = false) (rest : List Char) :
    readMembers? readMember close (blanks ++ close :: rest) = some ([], rest) := by
  rw [readMembers?, skip_append blank, skip_cons visible, isPrefixOf?_cons]

theorem Series.exists_opening (opens : ∀ {text member}, SpellsMember text member → Opens text) {text : List Char}
    {members : List α} (spelled : Series SpellsMember text members) (rest : List Char) :
    ∃ first others, skip (text ++ rest) = first :: others ∧ first ≠ ']' ∧ first ≠ '\x7d' := by
  cases spelled with
  | last left one right | more left one right =>
      simp only [List.append_assoc, skip_append left, (opens one).skip_append]
      obtain ⟨first, others, rfl, -, apart⟩ := opens one
      exact ⟨first, _, rfl, apart⟩

theorem readMembers?_series {bound : Nat} (opens : ∀ {text member}, SpellsMember text member → Opens text)
    (complete : Complete readMember SpellsMember bound) {close : Char} (closing : close = ']' ∨ close = '\x7d')
    {text : List Char} {members : List α} (spelled : Series SpellsMember text members)
    (short : text.length ≤ bound) (rest : List Char) :
    readMembers? readMember close (text ++ close :: rest) = some (members, rest) := by
  have opened : [close].isPrefixOf? (skip (text ++ close :: rest)) = none := by
    obtain ⟨first, others, start, bracket, brace⟩ := spelled.exists_opening opens (close :: rest)
    rw [start]
    refine isPrefixOf?_other fun c mem => ?_
    cases mem
    rcases closing with rfl | rfl <;> assumption
  rw [readMembers?, opened]
  exact readSeries?_append opens complete closing spelled short (by simp) rest

theorem readMembers?_sound (sound : Sound readMember SpellsMember) {close : Char} {text rest : List Char}
    {members : List α} (read : readMembers? readMember close text = some (members, rest)) :
    ∃ spelled, text = spelled ++ close :: rest ∧
      (members = [] ∧ Blank spelled ∨ Series SpellsMember spelled members) := by
  unfold readMembers? at read
  cases closed : [close].isPrefixOf? (skip text) with
  | some others =>
      rw [closed] at read
      obtain ⟨rfl, rfl⟩ := Prod.mk.inj (Option.some.inj read)
      obtain ⟨before, blank, split⟩ := exists_blank_append_skip text
      rw [← List.isPrefixOf?_eq_some_iff_append_eq.mp closed] at split
      exact ⟨before, split, .inl ⟨rfl, blank⟩⟩
  | none =>
      rw [closed] at read
      obtain ⟨spelled, split, series⟩ := readSeries?_sound sound read
      exact ⟨spelled, split, .inr series⟩

end Members

theorem SpellsNumber.exists_cons {text : List Char} {value : Json} (spelled : SpellsNumber text value) :
    ∃ first others, text = first :: others ∧ (first = '-' ∨ first.isDigit = true) := by
  obtain ⟨negative, leading, point, scale⟩ := spelled
  cases negative with
  | true => exact ⟨'-', _, rfl, .inl rfl⟩
  | false =>
      obtain ⟨first, others, rfl, digit⟩ := leading.1.exists_cons
      exact ⟨first, _, rfl, .inr digit⟩

theorem ne_of_numeric {c mark : Char} (numeric : c = '-' ∨ c.isDigit = true)
    (other : mark ≠ '-' ∧ mark.isDigit = false) : c ≠ mark := by
  rcases numeric with rfl | digit
  · exact other.1.symm
  · exact ne_of_isDigit digit other.2

theorem isBlank_of_numeric {c : Char} (numeric : c = '-' ∨ c.isDigit = true) : isBlank c = false := by
  simp only [isBlank, Bool.or_eq_false_iff, decide_eq_false_iff_not, and_assoc]
  refine ⟨?_, ?_, ?_, ?_⟩ <;> exact ne_of_numeric numeric (by decide)

theorem Spells.opens {text : List Char} {value : Json} (spelled : Spells text value) : Opens text := by
  cases spelled with
  | number spelled =>
      obtain ⟨first, others, rfl, numeric⟩ := spelled.exists_cons
      exact ⟨first, others, rfl, isBlank_of_numeric numeric, ne_of_numeric numeric (by decide),
        ne_of_numeric numeric (by decide)⟩
  | string spelled =>
      obtain ⟨several⟩ := spelled
      exact ⟨_, _, rfl, rfl, by decide, by decide⟩
  | _ => exact ⟨_, _, rfl, rfl, by decide, by decide⟩

theorem SpellsField.opens {text : List Char} {field : String × Json} (spelled : SpellsField Spells text field) :
    Opens text := by
  obtain ⟨⟨several⟩, before, after, spelled⟩ := spelled
  exact ⟨_, _, rfl, rfl, by decide, by decide⟩

theorem readField?_complete {readValue : List Char → Option (Json × List Char)} {bound : Nat}
    (complete : Complete readValue Spells bound) :
    Complete (readField? readValue) (SpellsField Spells) bound := by
  intro text rest field spelled short stops
  obtain @⟨title, left, right, text, name, value, named, before, after, spelled⟩ := spelled
  simp only [List.length_append, List.length_cons] at short
  have opened := readString?_append named (left ++ ':' :: (right ++ (text ++ rest)))
  have read := complete spelled (by omega) stops
  have colon : skip (left ++ ':' :: (right ++ (text ++ rest))) = ':' :: (right ++ (text ++ rest)) := by
    rw [skip_append before, skip_cons rfl]
  have start : skip (right ++ (text ++ rest)) = text ++ rest := by
    rw [skip_append after, spelled.opens.skip_append]
  simp [readField?, opened, colon, start, isPrefixOf?_cons, read]

theorem readField?_sound {readValue : List Char → Option (Json × List Char)} (sound : Sound readValue Spells) :
    Sound (readField? readValue) (SpellsField Spells) := by
  intro text rest field read
  simp only [readField?, Option.bind_eq_bind, Option.bind_eq_some_iff, Option.pure_def, Option.some.injEq,
    Prod.mk.injEq, Prod.exists, List.isPrefixOf?_eq_some_iff_append_eq] at read
  obtain ⟨name, others, first, others', colon, value, rest, second, rfl, rfl⟩ := read
  obtain ⟨title, rfl, named⟩ := readString?_sound first
  obtain ⟨left, before, split⟩ := exists_blank_append_skip others
  obtain ⟨right, after, split'⟩ := exists_blank_append_skip others'
  obtain ⟨text, whole, spelled⟩ := sound second
  refine ⟨title ++ left ++ ':' :: right ++ text, ?_, .named named before after spelled⟩
  rw [split, ← colon, split', whole]
  simp

theorem readValue?_complete (depth : Nat) : Complete (readValue? depth) Spells depth := by
  -- What stands between brackets is shorter than the whole, so one level less is enough for it.
  induction depth with
  | zero =>
      intro text rest value spelled short
      have := spelled.opens.length_pos
      omega
  | succ depth ih =>
      intro text rest value spelled short stops
      cases spelled with
      | null => rfl
      | true => rfl
      | false => rfl
      | number spelled =>
          have read := readNumber?_append spelled stops
          obtain ⟨first, others, rfl, numeric⟩ := spelled.exists_cons
          rw [List.cons_append] at read ⊢
          rw [readValue?]
          iterate 6 rw [if_neg (ne_of_numeric numeric (by decide))]
          exact read
      | string spelled =>
          have read := readString?_append spelled rest
          obtain ⟨several⟩ := spelled
          rw [List.cons_append, List.cons_append] at read ⊢
          rw [readValue?, if_pos rfl, read]
          rfl
      | noItems blank =>
          have read := readMembers?_blank (readValue? depth) blank (show isBlank ']' = false from rfl) rest
          simp [readValue?, read]
      | array spelled =>
          simp only [List.length_append, List.length_cons] at short
          have read := readMembers?_series Spells.opens ih (.inl rfl) spelled (by omega) rest
          simp [readValue?, read]
      | noFields blank =>
          have read := readMembers?_blank (readField? (readValue? depth)) blank
            (show isBlank '\x7d' = false from rfl) rest
          simp [readValue?, read]
      | object spelled =>
          simp only [List.length_append, List.length_cons] at short
          have read := readMembers?_series SpellsField.opens (readField?_complete ih) (.inr rfl) spelled
            (by omega) rest
          simp [readValue?, read]

theorem exists_of_map_eq_some {α : Type} {read : Option (α × List Char)} {wrap : α → Json} {value : Json}
    {rest : List Char} (found : read.map (fun (part, rest) => (wrap part, rest)) = some (value, rest)) :
    ∃ part, read = some (part, rest) ∧ value = wrap part := by
  obtain ⟨⟨part, others⟩, read, same⟩ := Option.map_eq_some_iff.mp found
  obtain ⟨rfl, rfl⟩ := Prod.mk.inj same
  exact ⟨part, read, rfl⟩

theorem isPrefixOf?_sound {mark text rest : List Char} {result value : Json}
    (read : (mark.isPrefixOf? text).map (fun rest => (result, rest)) = some (value, rest)) :
    text = mark ++ rest ∧ value = result := by
  obtain ⟨others, found, same⟩ := Option.map_eq_some_iff.mp read
  obtain ⟨rfl, rfl⟩ := Prod.mk.inj same
  exact ⟨(List.isPrefixOf?_eq_some_iff_append_eq.mp found).symm, rfl⟩

theorem readValue?_sound (depth : Nat) : Sound (readValue? depth) Spells := by
  induction depth with
  | zero =>
      intro text rest value read
      cases read
  | succ depth ih =>
      intro text rest value read
      cases text with
      | nil => cases read
      | cons c text =>
        rw [readValue?] at read
        split_ifs at read with quote bracket brace null true false
        · obtain ⟨value, string, rfl⟩ := exists_of_map_eq_some read
          obtain ⟨spelled, split, string⟩ := readString?_sound string
          exact ⟨spelled, split, .string string⟩
        · obtain ⟨items, members, rfl⟩ := exists_of_map_eq_some read
          obtain ⟨spelled, rfl, ⟨rfl, blank⟩ | series⟩ := readMembers?_sound ih members
          · exact ⟨_, by simp [bracket], .noItems blank⟩
          · exact ⟨_, by simp [bracket], .array series⟩
        · obtain ⟨fields, members, rfl⟩ := exists_of_map_eq_some read
          obtain ⟨spelled, rfl, ⟨rfl, blank⟩ | series⟩ := readMembers?_sound (readField?_sound ih) members
          · exact ⟨_, by simp [brace], .noFields blank⟩
          · exact ⟨_, by simp [brace], .object series⟩
        · obtain ⟨rfl, rfl⟩ := isPrefixOf?_sound read
          exact ⟨_, by simp [null], .null⟩
        · obtain ⟨rfl, rfl⟩ := isPrefixOf?_sound read
          exact ⟨_, by simp [true], .true⟩
        · obtain ⟨rfl, rfl⟩ := isPrefixOf?_sound read
          exact ⟨_, by simp [false], .false⟩
        · obtain ⟨spelled, split, number⟩ := readNumber?_sound read
          exact ⟨spelled, split, .number number⟩

/-- The reader accepts exactly the documents of the grammar. -/
theorem read?_eq_some_iff {text : String} {value : Json} :
    read? text = some value ↔ Document text.toList value := by
  constructor
  · intro read
    simp only [read?, Option.bind_eq_bind, Option.bind_eq_some_iff, Prod.exists] at read
    obtain ⟨value, rest, inside, ended⟩ := read
    split_ifs at ended with blank
    cases ended
    obtain ⟨before, left, split⟩ := exists_blank_append_skip text.toList
    obtain ⟨spelled, whole, spells⟩ := readValue?_sound _ inside
    rw [split, whole, ← List.append_assoc]
    exact .around left spells (skip_eq_nil_iff.mp blank)
  · intro document
    generalize chars : text.toList = whole at document
    obtain @⟨before, spelled, after, _, left, spells, right⟩ := document
    have stops : Stops after := by simpa using stops_nil.blank_append right
    have short : spelled.length ≤ text.length := by
      rw [← String.length_toList, chars, List.length_append, List.length_append]
      omega
    have inside : readValue? text.length (skip text.toList) = some (value, after) := by
      rw [chars, List.append_assoc, skip_append left, spells.opens.skip_append]
      exact readValue?_complete _ spells short stops
    simp [read?, inside, skip_eq_nil_iff.mpr right]

example : read? " [1.50e1, \"\\u0041\\/\\ud83d\\ude00\"] " = some (.array [.number 150 1, .string "A/😀"]) := by
  rfl

end ContractScan.Json
