import ContractScan.Text.Utf8

/-! # Decoding what has been encoded

The decoder reads byte by byte and keeps what it has collected of a character. Fed with the one to four bytes
that encode a character, it yields that character and is back at its start, so decoding an encoded text gives
the text.
-/

namespace ContractScan.Text.Utf8

theorem start_ascii : ∀ code < 0x80, start (UInt8.ofNat code) = ([Char.ofNat code], none) := by
  decide

/-- Lead bytes of two. The digits zero and one would be overlong forms. -/
theorem start_two : ∀ digit < 32, 2 ≤ digit →
    start (UInt8.ofNat (digit + 192)) = ([], some ⟨1, 0x80, 0xBF, digit⟩) := by
  decide

/-- Lead bytes of three. The ranges of the next byte leave out overlong forms and surrogates. -/
theorem start_three : ∀ digit < 16, start (UInt8.ofNat (digit + 224)) =
    ([], some ⟨2, if digit = 0 then 0xA0 else 0x80, if digit = 13 then 0x9F else 0xBF, digit⟩) := by
  decide

/-- Lead bytes of four. The ranges of the next byte leave out overlong forms and what is no code point. -/
theorem start_four : ∀ digit < 5, start (UInt8.ofNat (digit + 240)) =
    ([], some ⟨3, if digit = 0 then 0x90 else 0x80, if digit = 4 then 0x8F else 0xBF, digit⟩) := by
  decide

variable {missing bits digit : Nat} {low high : UInt8}

theorem extend_digit (small : digit < 64) (above : low.toNat ≤ digit + 128)
    (below : digit + 128 ≤ high.toNat) :
    extend ⟨missing, low, high, bits⟩ (UInt8.ofNat (digit + 128)) =
      if missing ≤ 1 then ([Char.ofNat (bits * 64 + digit)], none)
      else ([], some ⟨missing - 1, 0x80, 0xBF, bits * 64 + digit⟩) := by
  have value : (UInt8.ofNat (digit + 128)).toNat = digit + 128 := 
    UInt8.toNat_ofNat_of_lt (Nat.lt_trans (Nat.add_lt_add_right small 128) (by decide))
  have inRange : (low ≤ UInt8.ofNat (digit + 128) && UInt8.ofNat (digit + 128) ≤ high) = true := by
    rw [Bool.and_eq_true, decide_eq_true_iff, decide_eq_true_iff, UInt8.le_iff_toNat_le,
      UInt8.le_iff_toNat_le, value]
    exact ⟨above, below⟩
  rw [extend, if_pos inRange, value, Nat.add_sub_cancel]

theorem decodeFrom_lead {b : UInt8} {pending : Pending} (h : start b = ([], some pending))
    (bytes : List UInt8) : decodeFrom none (b :: bytes) = decodeFrom (some pending) bytes := by
  rw [decodeFrom, step, h]
  rfl

theorem decodeFrom_middle (small : digit < 64) (above : low.toNat ≤ digit + 128)
    (below : digit + 128 ≤ high.toNat) (bytes : List UInt8) :
    decodeFrom (some ⟨missing + 2, low, high, bits⟩) (UInt8.ofNat (digit + 128) :: bytes) =
      decodeFrom (some ⟨missing + 1, 0x80, 0xBF, bits * 64 + digit⟩) bytes := by
  rw [decodeFrom, step, extend_digit small above below, if_neg (by omega)]
  rfl

theorem decodeFrom_last (small : digit < 64) (above : low.toNat ≤ digit + 128)
    (below : digit + 128 ≤ high.toNat) (bytes : List UInt8) :
    decodeFrom (some ⟨1, low, high, bits⟩) (UInt8.ofNat (digit + 128) :: bytes) =
      Char.ofNat (bits * 64 + digit) :: decodeFrom none bytes := by
  rw [decodeFrom, step, extend_digit small above below, if_pos (Nat.le_refl 1)]
  rfl

/-- A later byte of a character is in range, whatever its digit. -/
theorem tail_range (small : digit < 64) :
    (0x80 : UInt8).toNat ≤ digit + 128 ∧ digit + 128 ≤ (0xBF : UInt8).toNat := by
  show 128 ≤ digit + 128 ∧ digit + 128 ≤ 191
  omega

variable {code : Nat}

theorem digit_lt : code % 64 < 64 :=
  Nat.mod_lt _ (by decide)

theorem decodeFrom_two (least : 0x80 ≤ code) (most : code ≤ 0x7FF) (bytes : List UInt8) :
    decodeFrom none (UInt8.ofNat (code / 64 % 32 + 192) :: UInt8.ofNat (code % 64 + 128) :: bytes) =
      Char.ofNat code :: decodeFrom none bytes := by
  rw [decodeFrom_lead (start_two _ (by omega) (by omega)),
    decodeFrom_last digit_lt (tail_range digit_lt).1 (tail_range digit_lt).2]
  congr 2
  omega

theorem decodeFrom_three (least : 0x800 ≤ code) (most : code ≤ 0xFFFF)
    (scalar : code < 0xD800 ∨ 0xDFFF < code) (bytes : List UInt8) :
    decodeFrom none (UInt8.ofNat (code / 4096 % 16 + 224) :: UInt8.ofNat (code / 64 % 64 + 128) ::
      UInt8.ofNat (code % 64 + 128) :: bytes) = Char.ofNat code :: decodeFrom none bytes := by
  -- The narrower ranges apply to codes below 0x1000 and to those whose first digit is 0xD.
  have above : (if code / 4096 % 16 = 0 then 0xA0 else 0x80 : UInt8).toNat ≤ code / 64 % 64 + 128 := by
    split
    · show 160 ≤ _
      omega
    · exact (tail_range digit_lt).1
  have below : code / 64 % 64 + 128 ≤ (if code / 4096 % 16 = 13 then 0x9F else 0xBF : UInt8).toNat := by
    split
    · show _ ≤ 159
      omega
    · exact (tail_range digit_lt).2
  rw [decodeFrom_lead (start_three _ (by omega)), decodeFrom_middle digit_lt above below,
    decodeFrom_last digit_lt (tail_range digit_lt).1 (tail_range digit_lt).2]
  congr 2
  omega

theorem decodeFrom_four (least : 0x10000 ≤ code) (most : code < 0x110000) (bytes : List UInt8) :
    decodeFrom none (UInt8.ofNat (code / 262144 % 8 + 240) :: UInt8.ofNat (code / 4096 % 64 + 128) ::
      UInt8.ofNat (code / 64 % 64 + 128) :: UInt8.ofNat (code % 64 + 128) :: bytes) =
        Char.ofNat code :: decodeFrom none bytes := by
  have above : (if code / 262144 % 8 = 0 then 0x90 else 0x80 : UInt8).toNat ≤
      code / 4096 % 64 + 128 := by
    split
    · show 144 ≤ _
      omega
    · exact (tail_range digit_lt).1
  have below : code / 4096 % 64 + 128 ≤
      (if code / 262144 % 8 = 4 then 0x8F else 0xBF : UInt8).toNat := by
    split
    · show _ ≤ 143
      omega
    · exact (tail_range digit_lt).2
  rw [decodeFrom_lead (start_four _ (by omega)), decodeFrom_middle digit_lt above below,
    decodeFrom_middle digit_lt (tail_range digit_lt).1 (tail_range digit_lt).2,
    decodeFrom_last digit_lt (tail_range digit_lt).1 (tail_range digit_lt).2]
  congr 2
  omega

theorem decodeFrom_encodeChar (c : Char) (bytes : List UInt8) :
    decodeFrom none (String.utf8EncodeChar c ++ bytes) = c :: decodeFrom none bytes := by
  have valid : c.val.toNat < 0xD800 ∨ 0xDFFF < c.val.toNat ∧ c.val.toNat < 0x110000 := c.valid
  have back : Char.ofNat c.val.toNat = c := Char.ofNat_toNat c
  simp only [String.utf8EncodeChar]
  split
  · rw [List.singleton_append, decodeFrom, step, start_ascii _ (by omega), back]
    rfl
  · split
    · exact (decodeFrom_two (by omega) (by omega) bytes).trans (by rw [back])
    · split
      · exact (decodeFrom_three (by omega) (by omega) (by omega) bytes).trans (by rw [back])
      · exact (decodeFrom_four (by omega) (by omega) bytes).trans (by rw [back])

theorem toUTF8_eq_flatMap (text : String) :
    text.toUTF8.data.toList = text.toList.flatMap String.utf8EncodeChar := by
  rw [String.toUTF8, ← String.utf8Encode_toList, List.utf8Encode, List.data_toByteArray]

theorem decode_toUTF8 (text : String) : decode text.toUTF8.data.toList = text.toList := by
  have decoded (cs : List Char) : decodeFrom none (cs.flatMap String.utf8EncodeChar) = cs := by
    induction cs with
    | nil => rfl
    | cons c cs ih => rw [List.flatMap_cons, decodeFrom_encodeChar, ih]
  rw [decode, toUTF8_eq_flatMap, decoded]

end ContractScan.Text.Utf8
