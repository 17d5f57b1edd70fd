import ContractScan.Proofs.Text.Lines
import ContractScan.Text.Utf8
import Mathlib

/-! # Bytes that are not UTF-8

The decoder reads byte by byte, and an ASCII byte never belongs to a longer character. So it ends whatever is
pending as the end of the input would, and decoding can be cut there. Conversely an ASCII character is only
ever read from its own byte: overlong forms are left out. Both rest on one invariant of what is pending.
-/

namespace ContractScan.Text.Utf8

/-- The least code that the pending character can still become. -/
def Pending.least (pending : Pending) : Nat :=
  (pending.bits * 64 + (pending.low.toNat - 0x80)) * 64 ^ (pending.missing - 1)

theorem Pending.least_eq (pending : Pending) : pending.least =
    (pending.bits * 64 + (pending.low.toNat - 0x80)) * 64 ^ (pending.missing - 1) := rfl

/-- Neither the next byte nor the character to come is ASCII. -/
structure Pending.BeyondAscii (pending : Pending) : Prop where
  low : 0x80 ≤ pending.low.toNat
  least : 0x80 ≤ pending.least

theorem lead?_beyondAscii {b : UInt8} {pending : Pending} (h : lead? b = some pending) :
    pending.BeyondAscii := by
  unfold lead? at h
  simp only [Bool.and_eq_true, decide_eq_true_eq, UInt8.le_iff_toNat_le] at h
  repeat' split at h
  all_goals
    cases h <;> constructor <;> simp [Pending.least] at * <;> omega

theorem start_beyondAscii {b : UInt8} {pending : Pending} (h : (start b).2 = some pending) :
    pending.BeyondAscii := by
  unfold start at h
  split at h
  · simp at h
  · split at h
    · rename_i lead
      obtain rfl : _ = pending := by simpa using h
      exact lead?_beyondAscii lead
    · simp at h

theorem extend_beyondAscii {pending next : Pending} {b : UInt8} (beyond : pending.BeyondAscii)
    (h : (extend pending b).2 = some next) : next.BeyondAscii := by
  unfold extend at h
  split at h
  · rename_i taken
    split at h
    · simp at h
    · rename_i missing
      obtain rfl : _ = next := by simpa using h
      obtain ⟨more, more_eq⟩ : ∃ more, pending.missing = more + 2 := ⟨pending.missing - 2, by omega⟩
      simp only [Bool.and_eq_true, decide_eq_true_eq, UInt8.le_iff_toNat_le] at taken
      refine ⟨by simp, ?_⟩
      -- The byte is at least `low`, so taking it cannot lower the least code.
      calc 0x80 ≤ (pending.bits * 64 + (pending.low.toNat - 0x80)) * 64 ^ (more + 1) := by
            simpa [Pending.least, more_eq] using beyond.least
        _ ≤ (pending.bits * 64 + (b.toNat - 0x80)) * 64 ^ (more + 1) := by
            apply Nat.mul_le_mul_right
            omega
        _ = Pending.least ⟨pending.missing - 1, 0x80, 0xBF, pending.bits * 64 + (b.toNat - 0x80)⟩ := by
            simp [Pending.least, more_eq, Nat.pow_succ, Nat.mul_assoc, Nat.mul_comm 64]
  · exact start_beyondAscii h

/-- The invariant of the decoder's state. -/
def Settled (state : Option Pending) : Prop :=
  ∀ pending, state = some pending → pending.BeyondAscii

theorem settled_none : Settled none := by
  simp [Settled]

theorem Settled.step {state : Option Pending} (settled : Settled state) (b : UInt8) :
    Settled (step state b).2 := by
  intro next h
  cases state with
  | none => exact start_beyondAscii h
  | some pending => exact extend_beyondAscii (settled pending rfl) h

theorem decodeFrom_cons (state : Option Pending) (b : UInt8) (bytes : List UInt8) :
    decodeFrom state (b :: bytes) = (step state b).1 ++ decodeFrom (step state b).2 bytes := rfl

theorem start_of_ascii {b : UInt8} (ascii : b < 0x80) : start b = ([Char.ofNat b.toNat], none) := by
  simp [start, ascii]

/-- To an ASCII byte the decoder reacts as to the end of the input. -/
theorem step_of_ascii {state : Option Pending} (settled : Settled state) {b : UInt8} (ascii : b < 0x80) :
    step state b = (decodeFrom state [] ++ [Char.ofNat b.toNat], none) := by
  cases state with
  | none => simp [step, decodeFrom, start_of_ascii ascii]
  | some pending =>
      have low := (settled pending rfl).low
      have refused : ¬ pending.low ≤ b := by
        simp only [UInt8.le_iff_toNat_le, UInt8.lt_iff_toNat_lt] at *
        simp at ascii
        omega
      simp [step, extend, refused, decodeFrom, start_of_ascii ascii]

theorem decodeFrom_append_ascii {state : Option Pending} (settled : Settled state) (before after : List UInt8)
    {c : UInt8} (ascii : c < 0x80) :
    decodeFrom state (before ++ c :: after) =
      decodeFrom state before ++ Char.ofNat c.toNat :: decode after := by
  induction before generalizing state with
  | nil => simp [decodeFrom_cons, step_of_ascii settled ascii, decode]
  | cons b before ih => simp [decodeFrom_cons, ih (settled.step b)]

theorem decode_nil : decode [] = [] := rfl

theorem decode_append_ascii (before after : List UInt8) {c : UInt8} (ascii : c < 0x80) :
    decode (before ++ c :: after) = decode before ++ Char.ofNat c.toNat :: decode after :=
  decodeFrom_append_ascii settled_none before after ascii

/-- An ASCII character other than the null character, which also stands for codes that are no characters. -/
structure IsPlain (c : Char) : Prop where
  positive : 0 < c.toNat
  ascii : c.toNat < 0x80

theorem isPlain_feed : IsPlain '\n' := ⟨by decide, by decide⟩

theorem isPlain_return : IsPlain '\r' := ⟨by decide, by decide⟩

theorem not_isPlain_replacement : ¬ IsPlain replacement := by
  intro plain
  exact absurd plain.ascii (by decide)

theorem IsPlain.toNat_ofNat {code : Nat} (plain : IsPlain (Char.ofNat code)) :
    (Char.ofNat code).toNat = code := by
  have positive := plain.positive
  rw [Char.toNat_ofNat] at positive ⊢
  split at positive
  · rename_i valid
    exact if_pos valid
  · exact absurd positive (Nat.lt_irrefl 0)

theorem toNat_of_mem_start {b : UInt8} {c : Char} (h : c ∈ (start b).1) (plain : IsPlain c) :
    c.toNat = b.toNat := by
  unfold start at h
  split at h
  · obtain rfl : c = Char.ofNat b.toNat := by simpa using h
    exact plain.toNat_ofNat
  · split at h
    · simp at h
    · obtain rfl : c = replacement := by simpa using h
      exact absurd plain not_isPlain_replacement

/-- The code of a character that is complete. -/
theorem Pending.BeyondAscii.complete {pending : Pending} (beyond : pending.BeyondAscii) {b : UInt8}
    (taken : pending.low ≤ b) (last : pending.missing ≤ 1) :
    0x80 ≤ pending.bits * 64 + (b.toNat - 0x80) := by
  have least := beyond.least
  rw [least_eq, Nat.sub_eq_zero_of_le last, Nat.pow_zero, Nat.mul_one] at least
  rw [UInt8.le_iff_toNat_le] at taken
  omega

theorem toNat_of_mem_extend {pending : Pending} (beyond : pending.BeyondAscii) {b : UInt8} {c : Char}
    (h : c ∈ (extend pending b).1) (plain : IsPlain c) : c.toNat = b.toNat := by
  unfold extend at h
  split at h
  · rename_i taken
    split at h
    · rename_i last
      rw [List.mem_singleton.mp h] at plain
      have ascii := plain.ascii
      rw [plain.toNat_ofNat] at ascii
      simp only [Bool.and_eq_true, decide_eq_true_eq] at taken
      exact absurd ascii (Nat.not_lt.mpr (beyond.complete taken.1 last))
    · simp at h
  · rcases List.mem_cons.mp h with rfl | h
    · exact absurd plain not_isPlain_replacement
    · exact toNat_of_mem_start h plain

theorem toNat_of_mem_step {state : Option Pending} (settled : Settled state) {b : UInt8} {c : Char}
    (h : c ∈ (step state b).1) (plain : IsPlain c) : c.toNat = b.toNat := by
  cases state with
  | none => exact toNat_of_mem_start h plain
  | some pending => exact toNat_of_mem_extend (settled pending rfl) h plain

theorem mem_of_mem_decodeFrom {state : Option Pending} (settled : Settled state) {bytes : List UInt8} {c : Char}
    (h : c ∈ decodeFrom state bytes) (plain : IsPlain c) : ∃ b ∈ bytes, c.toNat = b.toNat := by
  induction bytes generalizing state with
  | nil =>
      obtain rfl : c = replacement := by
        cases state <;> simp [decodeFrom] at h
        exact h
      exact absurd plain not_isPlain_replacement
  | cons b bytes ih =>
      rw [decodeFrom_cons] at h
      rcases List.mem_append.mp h with here | later
      · exact ⟨b, by simp, toNat_of_mem_step settled here plain⟩
      · obtain ⟨other, member, same⟩ := ih (settled.step b) later
        exact ⟨other, by simp [member], same⟩

theorem start_ne_nothing (b : UInt8) : start b ≠ ([], none) := by
  unfold start
  split
  · simp
  · split <;> simp

/-- A byte yields a character or leaves one pending. -/
theorem step_ne_nothing (state : Option Pending) (b : UInt8) : step state b ≠ ([], none) := by
  cases state with
  | none => exact start_ne_nothing b
  | some pending =>
      rw [step, extend]
      split
      · split <;> simp
      · simp

theorem decodeFrom_ne_nil {state : Option Pending} {bytes : List UInt8} (h : state.isSome ∨ bytes ≠ []) :
    decodeFrom state bytes ≠ [] := by
  induction bytes generalizing state with
  | nil => simp_all [decodeFrom]
  | cons b bytes ih =>
      rw [decodeFrom_cons]
      intro empty
      obtain ⟨here, later⟩ := List.append_eq_nil_iff.mp empty
      cases next : (step state b).2 with
      | none => exact step_ne_nothing state b (Prod.ext here next)
      | some pending => exact ih (by simp [next]) later

theorem getLast?_of_decodeFrom {state : Option Pending} (settled : Settled state) {bytes : List UInt8} {c : Char}
    (h : (decodeFrom state bytes).getLast? = some c) (plain : IsPlain c) :
    ∃ b, bytes.getLast? = some b ∧ c.toNat = b.toNat := by
  induction bytes generalizing state with
  | nil =>
      obtain ⟨b, member, -⟩ := mem_of_mem_decodeFrom settled (List.mem_of_getLast? h) plain
      simp at member
  | cons b bytes ih =>
      cases bytes with
      | nil =>
          obtain ⟨other, member, same⟩ := mem_of_mem_decodeFrom settled (List.mem_of_getLast? h) plain
          exact ⟨b, rfl, by simp_all⟩
      | cons next bytes =>
          have more : decodeFrom (step state b).2 (next :: bytes) ≠ [] := decodeFrom_ne_nil (.inr (by simp))
          rw [decodeFrom_cons, List.getLast?_append_of_ne_nil _ more] at h
          simpa using ih (settled.step b) h

theorem getLast?_decode_ne_return {bytes : List UInt8} (h : bytes.getLast? ≠ some 0x0D) :
    (decode bytes).getLast? ≠ some '\r' := by
  intro last
  obtain ⟨b, final, code⟩ := getLast?_of_decodeFrom settled_none last isPlain_return
  obtain rfl : b = 0x0D := UInt8.toNat_inj.mp code.symm
  exact h final

theorem toNat_of_ofNat_eq {c : UInt8} {d : Char} (plain : IsPlain d) (h : Char.ofNat c.toNat = d) :
    c.toNat = d.toNat := by
  subst h
  exact plain.toNat_ofNat.symm

/-- Reading can be cut at an ASCII byte that is no part of a line end of two bytes. -/
theorem readText_append_ascii (before after : List UInt8) {c : UInt8} (ascii : c < 0x80) (notReturn : c ≠ 0x0D)
    (apart : before.getLast? = some 0x0D → c ≠ 0x0A) :
    readText (before ++ [c] ++ after) =
      readText before ++ String.singleton (Char.ofNat c.toNat) ++ readText after := by
  have single : Char.ofNat c.toNat ≠ '\r' := by
    intro same
    exact notReturn (UInt8.toNat_inj.mp (toNat_of_ofNat_eq isPlain_return same))
  have cut : (decode before).getLast? = some '\r' →
      (Char.ofNat c.toNat :: decode after).head? ≠ some '\n' := by
    intro last first
    have feed := toNat_of_ofNat_eq isPlain_feed (by simpa using first)
    by_cases final : before.getLast? = some 0x0D
    · exact apart final (UInt8.toNat_inj.mp feed)
    · exact getLast?_decode_ne_return final last
  apply String.toList_injective
  simp only [readText, List.append_assoc, List.singleton_append, decode_append_ascii before after ascii,
    unifyLineEnds_append cut, unifyLineEnds_cons fun same => absurd same single, if_neg single]
  simp

theorem readText_append_feed {before : List UInt8} (final : before.getLast? ≠ some 0x0D) (after : List UInt8) :
    readText (before ++ [0x0A] ++ after) = readText before ++ "\n" ++ readText after :=
  readText_append_ascii before after (by decide) (by decide) fun last => absurd last final

theorem readText_nil : readText [] = "" := rfl

theorem unifyLineEnds_decode_return (before rest : List UInt8) :
    unifyLineEnds (decode (before ++ 0x0D :: rest)) =
      unifyLineEnds (decode before) ++ unifyLineEnds ('\r' :: decode rest) := by
  have apart : (decode before).getLast? = some '\r' → ('\r' :: decode rest).head? ≠ some '\n' := by simp
  rw [decode_append_ascii before rest (by decide), ← unifyLineEnds_append apart]
  rfl

/-- The text above a line feed. A carriage return before the line feed goes with it. -/
theorem exists_text_above_feed (before : List UInt8) : ∃ text,
    (∀ after, readText (before ++ [0x0A] ++ after) = text ++ "\n" ++ readText after) ∧
      (readText before = text ∨ readText before = text ++ "\n") := by
  by_cases final : before.getLast? = some 0x0D
  · obtain ⟨body, rfl⟩ := List.getLast?_eq_some_iff.mp final
    refine ⟨readText body, ?_, .inr ?_⟩
    · intro after
      have feed : decode (0x0A :: after) = '\n' :: decode after := decode_append_ascii [] after (by decide)
      apply String.toList_injective
      simp [readText, unifyLineEnds_decode_return, feed, unifyLineEnds]
    · apply String.toList_injective
      simp [readText, unifyLineEnds_decode_return, decode_nil, unifyLineEnds]
  · refine ⟨readText before, ?_, .inl rfl⟩
    intro after
    exact readText_append_feed final after

theorem not_mem_readText {line : List UInt8} (noFeed : 0x0A ∉ line) (noReturn : 0x0D ∉ line) :
    '\n' ∉ (readText line).toList := by
  have absent {c : Char} (plain : IsPlain c) (b : UInt8) (code : c.toNat = b.toNat) (h : b ∉ line) :
      c ∉ decode line := by
    intro member
    obtain ⟨other, here, same⟩ := mem_of_mem_decodeFrom settled_none member plain
    obtain rfl : b = other := UInt8.toNat_inj.mp (code.symm.trans same)
    exact h here
  intro member
  rw [readText, String.toList_ofList] at member
  rcases mem_of_feed_mem_unifyLineEnds member with feed | lone
  · exact absent isPlain_feed 0x0A rfl noFeed feed
  · exact absent isPlain_return 0x0D rfl noReturn lone

end ContractScan.Text.Utf8
