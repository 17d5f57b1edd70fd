import ContractScan.Proofs.Text.Undecodable
import ContractScan.Proofs.Text.Utf8

/-! # Encoding what has been decoded

As long as the decoder yields no replacement character, each lead byte is followed by the bytes that it announces.
The narrower ranges after some lead bytes then leave exactly the one form in which a character is encoded. So a
text without replacement characters has been read from its own encoding and from no other bytes.
-/

namespace ContractScan.Text.Utf8

/-- Bytes that continue a character, and lead bytes of overlong forms. -/
theorem start_continuing : ∀ digit < 66, start (UInt8.ofNat (digit + 128)) = ([replacement], none) := by
  decide

/-- Bytes that would lead beyond the last code point. -/
theorem start_beyond : ∀ digit < 11, start (UInt8.ofNat (digit + 245)) = ([replacement], none) := by
  decide

/-- What a byte can be where a character should begin. -/
theorem lead_cases (b : UInt8) :
    (∃ code < 0x80, b = UInt8.ofNat code) ∨ (∃ digit < 32, 2 ≤ digit ∧ b = UInt8.ofNat (digit + 192)) ∨
      (∃ digit < 16, b = UInt8.ofNat (digit + 224)) ∨ (∃ digit < 5, b = UInt8.ofNat (digit + 240)) ∨
      start b = ([replacement], none) := by
  have least := b.toNat_lt
  have value {shift : Nat} (above : shift ≤ b.toNat) : b = UInt8.ofNat (b.toNat - shift + shift) := by
    rw [Nat.sub_add_cancel above, UInt8.ofNat_toNat]
  by_cases ascii : b.toNat < 128
  · exact .inl ⟨b.toNat, ascii, UInt8.ofNat_toNat.symm⟩
  by_cases continuing : b.toNat < 194
  · have refused := start_continuing (b.toNat - 128) (by omega)
    rw [← value (by omega)] at refused
    exact .inr (.inr (.inr (.inr refused)))
  by_cases two : b.toNat < 224
  · exact .inr (.inl ⟨b.toNat - 192, by omega, by omega, value (by omega)⟩)
  by_cases three : b.toNat < 240
  · exact .inr (.inr (.inl ⟨b.toNat - 224, by omega, value (by omega)⟩))
  by_cases four : b.toNat < 245
  · exact .inr (.inr (.inr (.inl ⟨b.toNat - 240, by omega, value (by omega)⟩)))
  · have refused := start_beyond (b.toNat - 245) (by omega)
    rw [← value (by omega)] at refused
    exact .inr (.inr (.inr (.inr refused)))

section Digits

variable {missing bits digit : Nat} {low high : UInt8} {bytes : List UInt8}

/-- What is pending is continued, or else shows as a replacement character. -/
theorem exists_digit (least : 0x80 ≤ low.toNat) (most : high.toNat ≤ 0xBF)
    (clean : replacement ∉ decodeFrom (some ⟨missing, low, high, bits⟩) bytes) :
    ∃ digit rest, digit < 64 ∧ low.toNat ≤ digit + 128 ∧ digit + 128 ≤ high.toNat ∧
      bytes = UInt8.ofNat (digit + 128) :: rest := by
  cases bytes with
  | nil => simp [decodeFrom] at clean
  | cons b rest =>
      by_cases taken : low ≤ b && b ≤ high
      · simp only [Bool.and_eq_true, decide_eq_true_eq, UInt8.le_iff_toNat_le] at taken
        have value : b.toNat - 128 + 128 = b.toNat := by omega
        refine ⟨b.toNat - 128, rest, by omega, by omega, by omega, ?_⟩
        rw [value, UInt8.ofNat_toNat]
      · simp [decodeFrom_cons, step, extend, taken] at clean

/-- A byte in the middle of a character. -/
theorem exists_middle (least : 0x80 ≤ low.toNat) (most : high.toNat ≤ 0xBF)
    (clean : replacement ∉ decodeFrom (some ⟨missing + 2, low, high, bits⟩) bytes) :
    ∃ digit rest, digit < 64 ∧ low.toNat ≤ digit + 128 ∧ digit + 128 ≤ high.toNat ∧
      bytes = UInt8.ofNat (digit + 128) :: rest ∧
      replacement ∉ decodeFrom (some ⟨missing + 1, 0x80, 0xBF, bits * 64 + digit⟩) rest := by
  obtain ⟨digit, rest, small, above, below, rfl⟩ := exists_digit least most clean
  rw [decodeFrom_middle small above below] at clean
  exact ⟨digit, rest, small, above, below, rfl, clean⟩

/-- A later byte of a character. -/
theorem exists_tail (clean : replacement ∉ decodeFrom (some ⟨missing, 0x80, 0xBF, bits⟩) bytes) :
    ∃ digit rest, digit < 64 ∧ bytes = UInt8.ofNat (digit + 128) :: rest := by
  obtain ⟨digit, rest, small, -, -, split⟩ := exists_digit (by decide) (by decide) clean
  exact ⟨digit, rest, small, split⟩

end Digits

section Characters

variable {first second third fourth : Nat}

theorem utf8EncodeChar_one (one : first < 0x80) :
    String.utf8EncodeChar (Char.ofNat first) = [UInt8.ofNat first] := by
  have valid : first.isValidChar := .inl (by omega)
  rw [String.utf8EncodeChar, Char.toNat_val, Char.toNat_ofNat, if_pos valid]
  exact if_pos (by omega)

theorem utf8EncodeChar_two (least : 2 ≤ first) (one : first < 32) (two : second < 64) :
    String.utf8EncodeChar (Char.ofNat (first * 64 + second)) =
      [UInt8.ofNat (first + 192), UInt8.ofNat (second + 128)] := by
  have valid : (first * 64 + second).isValidChar := .inl (by omega)
  have digit1 : (first * 64 + second) / 64 % 32 = first := by omega
  have digit2 : (first * 64 + second) % 64 = second := by omega
  rw [String.utf8EncodeChar, Char.toNat_val, Char.toNat_ofNat, if_pos valid]
  simp only [digit1, digit2]
  rw [if_neg (by omega), if_pos (by omega)]

theorem utf8EncodeChar_three (one : first < 16) (two : second < 64) (three : third < 64)
    (least : 0x800 ≤ (first * 64 + second) * 64)
    (scalar : (first * 64 + second) * 64 < 0xD800 ∨ 0xDFFF < (first * 64 + second) * 64) :
    String.utf8EncodeChar (Char.ofNat ((first * 64 + second) * 64 + third)) =
      [UInt8.ofNat (first + 224), UInt8.ofNat (second + 128), UInt8.ofNat (third + 128)] := by
  have valid : ((first * 64 + second) * 64 + third).isValidChar := by
    unfold Nat.isValidChar
    omega
  have digit1 : ((first * 64 + second) * 64 + third) / 4096 % 16 = first := by omega
  have digit2 : ((first * 64 + second) * 64 + third) / 64 % 64 = second := by omega
  have digit3 : ((first * 64 + second) * 64 + third) % 64 = third := by omega
  rw [String.utf8EncodeChar, Char.toNat_val, Char.toNat_ofNat, if_pos valid]
  simp only [digit1, digit2, digit3]
  rw [if_neg (by omega), if_neg (by omega), if_pos (by omega)]

theorem utf8EncodeChar_four (two : second < 64) (three : third < 64) (four : fourth < 64)
    (least : 0x10000 ≤ (first * 64 + second) * 4096) (most : (first * 64 + second) * 4096 < 0x110000) :
    String.utf8EncodeChar (Char.ofNat (((first * 64 + second) * 64 + third) * 64 + fourth)) =
      [UInt8.ofNat (first + 240), UInt8.ofNat (second + 128), UInt8.ofNat (third + 128),
        UInt8.ofNat (fourth + 128)] := by
  have valid : (((first * 64 + second) * 64 + third) * 64 + fourth).isValidChar := by
    unfold Nat.isValidChar
    omega
  have digit1 : (((first * 64 + second) * 64 + third) * 64 + fourth) / 262144 % 8 = first := by omega
  have digit2 : (((first * 64 + second) * 64 + third) * 64 + fourth) / 4096 % 64 = second := by omega
  have digit3 : (((first * 64 + second) * 64 + third) * 64 + fourth) / 64 % 64 = third := by omega
  have digit4 : (((first * 64 + second) * 64 + third) * 64 + fourth) % 64 = fourth := by omega
  rw [String.utf8EncodeChar, Char.toNat_val, Char.toNat_ofNat, if_pos valid]
  simp only [digit1, digit2, digit3, digit4]
  rw [if_neg (by omega), if_neg (by omega), if_neg (by omega)]

end Characters

/-- Bytes that are decoded without a replacement character start with the encoding of a character. -/
theorem exists_encoded {b : UInt8} {bytes : List UInt8} (clean : replacement ∉ decode (b :: bytes)) :
    ∃ c rest, b :: bytes = String.utf8EncodeChar c ++ rest := by
  rcases lead_cases b with ⟨code, one, rfl⟩ | ⟨first, one, least, rfl⟩ | ⟨first, one, rfl⟩ |
    ⟨first, one, rfl⟩ | refused
  · exact ⟨Char.ofNat code, bytes, by rw [utf8EncodeChar_one one, List.singleton_append]⟩
  · rw [decode, decodeFrom_lead (start_two first one least)] at clean
    obtain ⟨second, rest, two, rfl⟩ := exists_tail clean
    exact ⟨_, rest, by rw [utf8EncodeChar_two least one two]; rfl⟩
  · rw [decode, decodeFrom_lead (start_three first one)] at clean
    obtain ⟨second, others, two, above, below, rfl, onward⟩ :=
      exists_middle (by split <;> decide) (by split <;> decide) clean
    obtain ⟨third, rest, three, rfl⟩ := exists_tail onward
    -- The range of the second byte is narrower after the first digits 0 and 0xD.
    have longer : first = 0 → 160 ≤ second + 128 := fun zero => by simpa [zero] using above
    have scalar : first = 13 → second + 128 ≤ 159 := fun thirteen => by simpa [thirteen] using below
    exact ⟨_, rest, by rw [utf8EncodeChar_three one two three (by omega) (by omega)]; rfl⟩
  · rw [decode, decodeFrom_lead (start_four first one)] at clean
    obtain ⟨second, others, two, above, below, rfl, onward⟩ :=
      exists_middle (by split <;> decide) (by split <;> decide) clean
    obtain ⟨third, others, three, -, -, rfl, last⟩ := exists_middle (by decide) (by decide) onward
    obtain ⟨fourth, rest, four, rfl⟩ := exists_tail last
    have longer : first = 0 → 144 ≤ second + 128 := fun zero => by simpa [zero] using above
    have within : first = 4 → second + 128 ≤ 143 := fun isFour => by simpa [isFour] using below
    have least : 0x10000 ≤ (first * 64 + second) * 4096 := by omega
    have most : (first * 64 + second) * 4096 < 0x110000 := by omega
    exact ⟨_, rest, by rw [utf8EncodeChar_four two three four least most]; rfl⟩
  · simp [decode, decodeFrom_cons, step, refused] at clean

theorem flatMap_encode_decode {bytes : List UInt8} (clean : replacement ∉ decode bytes) :
    (decode bytes).flatMap String.utf8EncodeChar = bytes := by
  induction length : bytes.length using Nat.strongRecOn generalizing bytes with
  | ind count ih =>
      cases bytes with
      | nil => rfl
      | cons b bytes =>
          obtain ⟨c, rest, split⟩ := exists_encoded clean
          have nonempty := List.length_pos_of_ne_nil (String.utf8EncodeChar_ne_nil (c := c))
          have shorter : rest.length < count := by
            rw [← length, split, List.length_append]
            omega
          have decoded : decode (b :: bytes) = c :: decode rest := by
            rw [split]
            exact decodeFrom_encodeChar c rest
          rw [decoded, List.mem_cons, not_or] at clean
          rw [decoded, List.flatMap_cons, ih _ shorter clean.2 rfl, ← split]

end ContractScan.Text.Utf8
