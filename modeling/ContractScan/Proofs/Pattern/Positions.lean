import ContractScan.Proofs.Pattern.Adequacy
import ContractScan.Proofs.Pattern.Reading

/-! # Patterns between positions

`Pattern.Means` tells between which positions of a line a pattern holds: a sequence by way of a position in between, a
repetition by a number of steps within its bounds, a look-around by what holds from the position on or up to it. It
knows neither an order of trial nor the width of a look-behind, and every bound is taken as it is written. For a pattern
that has been read and refers to no group, searching a line finds exactly what holds between two positions of it.
-/

namespace ContractScan.Pattern

open Text

/-- So many repetitions are not too few and not too many. -/
def Bounds.Holds (bounds : Bounds) (n : Nat) : Prop :=
  bounds.min ≤ n ∧ ∀ most, bounds.max = some most → n ≤ most

/-- So many steps lead from one position to the other. -/
def Steps (R : Nat → Nat → Prop) : Nat → Nat → Nat → Prop
  | 0, i, j => i = j
  | n + 1, i, j => ∃ k, R i k ∧ Steps R n k j

/-- Between the positions stands one character, and it passes the test. -/
def CharTest.Passes (test : CharTest) (line : List Char) (i j : Nat) : Prop :=
  j = i + 1 ∧ ∃ c, (line.drop i).head? = some c ∧ test.accepts c = true

def WordAfter (line : List Char) (i : Nat) : Prop :=
  ∃ c, (line.drop i).head? = some c ∧ isWord c.toNat = true

def WordBefore (line : List Char) (i : Nat) : Prop :=
  ∃ k, i = k + 1 ∧ WordAfter line k

def Anchor.Means (line : List Char) (i : Nat) : Anchor → Prop
  | .start => i = 0
  | .lineStart => i = 0 ∨ ∃ k, i = k + 1 ∧ (line.drop k).head? = some '\n'
  | .lineEnd => i = line.length ∨ line.drop i = ['\n']
  | .anyLineEnd => i = line.length ∨ (line.drop i).head? = some '\n'
  | .textEnd => i = line.length
  | .boundary => ¬(WordBefore line i ↔ WordAfter line i)
  | .interior => line ≠ [] ∧ (WordBefore line i ↔ WordAfter line i)

/-- The pattern holds between the two positions of the line. A reference to a group and a condition have no meaning of
their own, and neither has an atomic group, which depends on the order of trial. -/
def Means (line : List Char) : Pattern → Nat → Nat → Prop
  | .empty, i, j => i = j
  | .char test, i, j => test.Passes line i j
  | .span test bounds _, i, j => ∃ n, bounds.Holds n ∧ Steps (test.Passes line) n i j
  | .seq first second, i, j => ∃ k, first.Means line i k ∧ second.Means line k j
  | .alt first second, i, j => first.Means line i j ∨ second.Means line i j
  | .iterate body bounds _, i, j => ∃ n, bounds.Holds n ∧ Steps (fun i j => body.Means line i j) n i j
  | .group _ body, i, j => body.Means line i j
  | .again _, _, _ | .atomic _, _, _ | .conditional _ _ _, _, _ => False
  | .anchor condition, i, j => i = j ∧ condition.Means line i
  | .look .ahead negated body, i, j => i = j ∧ ((∃ k, body.Means line i k) ↔ negated = false)
  | .look (.behind _) negated body, i, j => i = j ∧ ((∃ k, body.Means line k i) ↔ negated = false)

variable {line before text rest : List Char} {i j k n : Nat} {R S : Nat → Nat → Prop}
  {P Q : (before text rest : List Char) → Prop}

/-! ## Widths -/

/-- So many characters are within the width. -/
def Width.Spans (width : Width) (n : Nat) : Prop :=
  width.min ≤ n ∧ ∀ most, width.max = some most → n ≤ most

namespace Width

variable {a b : Width} {m : Nat}

theorem spans_exactly : (exactly n).Spans m ↔ m = n := by
  simp only [Spans, exactly, Option.some.injEq, forall_eq']
  omega

theorem Spans.append (first : a.Spans m) (second : b.Spans n) : (a.append b).Spans (m + n) := by
  refine ⟨Nat.add_le_add first.1 second.1, ?_⟩
  intro most limited
  cases ha : a.max with
  | none => simp [Width.append, ha] at limited
  | some x =>
      cases hb : b.max with
      | none => simp [Width.append, ha, hb] at limited
      | some y =>
          have total : x + y = most := by simpa [Width.append, ha, hb] using limited
          have := first.2 x ha
          have := second.2 y hb
          omega

theorem Spans.either (one : a.Spans n ∨ b.Spans n) : (a.either b).Spans n := by
  refine ⟨?_, ?_⟩
  · rcases one with one | one
    · exact Nat.le_trans (Nat.min_le_left _ _) one.1
    · exact Nat.le_trans (Nat.min_le_right _ _) one.1
  · intro most limited
    cases ha : a.max with
    | none => simp [Width.either, ha] at limited
    | some x =>
        cases hb : b.max with
        | none => simp [Width.either, ha, hb] at limited
        | some y =>
            have larger : Nat.max x y = most := by simpa [Width.either, ha, hb] using limited
            rw [← larger]
            rcases one with one | one
            · exact Nat.le_trans (one.2 x ha) (Nat.le_max_left x y)
            · exact Nat.le_trans (one.2 y hb) (Nat.le_max_right x y)

theorem repeatMax_eq_some {a b : Option Nat} {most : Nat} (limited : repeatMax a b = some most) :
    (a = some 0 ∨ b = some 0) ∧ most = 0 ∨ ∃ x y, a = some x ∧ b = some y ∧ most = x * y := by
  unfold repeatMax at limited
  split at limited <;> grind

end Width

/-- Steps of a width make up so many times the width. -/
theorem Steps.total {width : Width} (each : ∀ i j, R i j → ∃ m, j = i + m ∧ width.Spans m)
    (steps : Steps R n i j) :
    ∃ m, j = i + m ∧ width.min * n ≤ m ∧ (∀ most, width.max = some most → m ≤ most * n) ∧ (n = 0 → m = 0) := by
  induction n generalizing i with
  | zero =>
      cases steps
      exact ⟨0, by simp⟩
  | succ n ih =>
      obtain ⟨k, step, others⟩ := steps
      obtain ⟨m, rfl, least, greatest⟩ := each _ _ step
      obtain ⟨m', rfl, least', greatest', -⟩ := ih others
      refine ⟨m + m', by omega, ?_, ?_, by omega⟩
      · rw [Nat.mul_succ]
        omega
      · intro most limited
        have := greatest most limited
        have := greatest' most limited
        rw [Nat.mul_succ]
        omega

theorem Steps.spans {width : Width} {bounds : Bounds} (each : ∀ i j, R i j → ∃ m, j = i + m ∧ width.Spans m)
    (holds : bounds.Holds n) (steps : Steps R n i j) : ∃ m, j = i + m ∧ (width.repeated bounds).Spans m := by
  obtain ⟨m, rfl, least, greatest, none⟩ := steps.total each
  refine ⟨m, rfl, Nat.le_trans (Nat.mul_le_mul_left _ holds.1) least, ?_⟩
  intro most limited
  rcases Width.repeatMax_eq_some limited with ⟨nothing | never, rfl⟩ | ⟨x, y, widest, most, rfl⟩
  · simpa using greatest 0 nothing
  · exact Nat.le_of_eq (none (Nat.le_zero.mp (holds.2 0 never)))
  · exact Nat.le_trans (greatest x widest) (Nat.mul_le_mul_left x (holds.2 y most))

theorem CharTest.Passes.spans {test : CharTest} (passes : test.Passes line i j) :
    ∃ m, j = i + m ∧ (Width.exactly 1).Spans m :=
  ⟨1, passes.1, Width.spans_exactly.mpr rfl⟩

/-- What a pattern holds between is as wide as the pattern tells. -/
theorem Means.spans {p : Pattern} (groups : List (Nat × Width)) (means : p.Means line i j) :
    ∃ m, j = i + m ∧ (p.width groups).Spans m := by
  induction p generalizing i j with
  | empty => exact ⟨0, means.symm, Width.spans_exactly.mpr rfl⟩
  | char test => exact CharTest.Passes.spans means
  | span test bounds preference =>
      obtain ⟨n, holds, steps⟩ := means
      exact steps.spans (fun _ _ passes => passes.spans) holds
  | seq first second ih ih' =>
      obtain ⟨k, one, other⟩ := means
      obtain ⟨m, rfl, spans⟩ := ih one
      obtain ⟨m', rfl, spans'⟩ := ih' other
      exact ⟨m + m', by omega, spans.append spans'⟩
  | alt first second ih ih' =>
      rcases means with one | other
      · obtain ⟨m, rfl, spans⟩ := ih one
        exact ⟨m, rfl, .either (.inl spans)⟩
      · obtain ⟨m, rfl, spans⟩ := ih' other
        exact ⟨m, rfl, .either (.inr spans)⟩
  | iterate body bounds preference ih =>
      obtain ⟨n, holds, steps⟩ := means
      exact steps.spans (fun _ _ => ih) holds
  | group index body ih => exact ih means
  | again | atomic | conditional => exact means.elim
  | anchor condition => exact ⟨0, means.1.symm, Width.spans_exactly.mpr rfl⟩
  | look direction negated body ih =>
      cases direction with
      | ahead => exact ⟨0, means.1.symm, Width.spans_exactly.mpr rfl⟩
      | behind width => exact ⟨0, means.1.symm, Width.spans_exactly.mpr rfl⟩

/-! ## Positions and texts -/

/-- From a position one gets to no earlier one, and from one in the line to none beyond its end. -/
def Onwards (line : List Char) (R : Nat → Nat → Prop) : Prop :=
  ∀ ⦃i j⦄, R i j → i ≤ j ∧ (i ≤ line.length → j ≤ line.length)

theorem Onwards.steps (onwards : Onwards line R) (n : Nat) : Onwards line (Steps R n) := by
  intro i j steps
  induction n generalizing i with
  | zero =>
      cases steps
      exact ⟨Nat.le_refl _, id⟩
  | succ n ih =>
      obtain ⟨k, step, others⟩ := steps
      have first := onwards step
      have second := ih others
      exact ⟨Nat.le_trans first.1 second.1, fun inside => second.2 (first.2 inside)⟩

theorem onwards_passes (test : CharTest) : Onwards line (test.Passes line) := by
  rintro i j ⟨rfl, c, found, -⟩
  rw [List.head?_drop] at found
  obtain ⟨inside, -⟩ := List.getElem?_eq_some_iff.mp found
  omega

theorem onwards_means (p : Pattern) : Onwards line (p.Means line) := by
  induction p with
  | char test => exact onwards_passes test
  | span test bounds preference =>
      rintro i j ⟨n, -, steps⟩
      exact (onwards_passes test).steps n steps
  | seq first second ih ih' =>
      rintro i j ⟨k, one, other⟩
      have first := ih one
      have second := ih' other
      exact ⟨Nat.le_trans first.1 second.1, fun inside => second.2 (first.2 inside)⟩
  | alt first second ih ih' =>
      intro i j means
      exact means.elim (@ih i j) (@ih' i j)
  | iterate body bounds preference ih =>
      rintro i j ⟨n, -, steps⟩
      exact Onwards.steps ih n steps
  | group index body ih => exact ih
  | again | atomic | conditional => exact fun _ _ means => means.elim
  | empty =>
      rintro i j rfl
      exact ⟨Nat.le_refl _, id⟩
  | anchor condition =>
      rintro i j ⟨rfl, -⟩
      exact ⟨Nat.le_refl _, id⟩
  | look direction negated body ih =>
      cases direction with
      | ahead =>
          rintro i j ⟨rfl, -⟩
          exact ⟨Nat.le_refl _, id⟩
      | behind width =>
          rintro i j ⟨rfl, -⟩
          exact ⟨Nat.le_refl _, id⟩

/-- The text stands between the positions of the line, with the others before and after it. -/
structure Cut (line : List Char) (i j : Nat) (before text rest : List Char) : Prop where
  whole : line = before ++ (text ++ rest)
  start : before.length = i
  stop : i + text.length = j

namespace Cut

theorem exists_of_le (ordered : i ≤ j) (inside : j ≤ line.length) :
    ∃ before text rest, Cut line i j before text rest := by
  refine ⟨line.take i, (line.drop i).take (j - i), line.drop j, ?_, ?_, ?_⟩
  · have tail : line.drop j = (line.drop i).drop (j - i) := by
      rw [List.drop_drop]
      congr 1
      omega
    rw [tail, List.take_append_drop, List.take_append_drop]
  · rw [List.length_take]
    omega
  · rw [List.length_take, List.length_drop]
    omega

theorem parts {one other : List Char} (cut : Cut line i j before (one ++ other) rest) :
    Cut line i (i + one.length) before one (other ++ rest) ∧
      Cut line (i + one.length) j (before ++ one) other rest := by
  obtain ⟨rfl, rfl, rfl⟩ := cut
  exact ⟨⟨by simp, rfl, rfl⟩, ⟨by simp, by simp, by simp; omega⟩⟩

theorem split (cut : Cut line i j before text rest) (first : i ≤ k) (second : k ≤ j) :
    ∃ one other, text = one ++ other ∧ i + one.length = k := by
  refine ⟨text.take (k - i), text.drop (k - i), (List.take_append_drop _ _).symm, ?_⟩
  have := cut.stop
  rw [List.length_take]
  omega

theorem empty_iff (cut : Cut line i j before text rest) : i = j ↔ text = [] := by
  have := cut.stop
  rw [← List.length_eq_zero_iff]
  omega

theorem drop_eq (cut : Cut line i j before text rest) : line.drop i = text ++ rest := by
  obtain ⟨rfl, rfl, -⟩ := cut
  simp

end Cut

/-- Where a line is cut, the positions are related exactly if the texts are. -/
def Reflects (line : List Char) (R : Nat → Nat → Prop) (P : (before text rest : List Char) → Prop) : Prop :=
  ∀ ⦃i j before text rest⦄, Cut line i j before text rest → (R i j ↔ P before text rest)

namespace Reflects

theorem append (first : Reflects line R P) (onwards : Onwards line R) (second : Reflects line S Q)
    (onwards' : Onwards line S) : Reflects line (fun i j => ∃ k, R i k ∧ S k j) fun before text rest =>
      ∃ one other, text = one ++ other ∧ P before one (other ++ rest) ∧ Q (before ++ one) other rest := by
  intro i j before text rest cut
  constructor
  · rintro ⟨k, one, other⟩
    obtain ⟨start, stop, rfl, rfl⟩ := cut.split (onwards one).1 (onwards' other).1
    exact ⟨start, stop, rfl, (first cut.parts.1).mp one, (second cut.parts.2).mp other⟩
  · rintro ⟨start, stop, rfl, one, other⟩
    exact ⟨_, (first cut.parts.1).mpr one, (second cut.parts.2).mpr other⟩

theorem steps (reflects : Reflects line R P) (onwards : Onwards line R) (n : Nat) :
    Reflects line (Steps R n) (Chained P n) := by
  induction n with
  | zero => exact fun _ _ _ _ _ cut => cut.empty_iff
  | succ n ih => exact reflects.append onwards ih (onwards.steps n)

/-- What holds from a position on. -/
theorem exists_onwards (reflects : Reflects line R P) (onwards : Onwards line R) (whole : line = before ++ rest) :
    (∃ j, R before.length j) ↔ ∃ seen after, rest = seen ++ after ∧ P before seen after := by
  constructor
  · rintro ⟨j, related⟩
    obtain ⟨ordered, inside⟩ := onwards related
    have cut : Cut line before.length line.length before rest [] := ⟨by simp [whole], rfl, by simp [whole]⟩
    obtain ⟨seen, after, rfl, rfl⟩ := cut.split ordered (inside (by simp [whole]))
    exact ⟨seen, after, rfl, (reflects (by simpa using cut.parts.1)).mp related⟩
  · rintro ⟨seen, after, rfl, taken⟩
    exact ⟨_, (reflects ⟨whole, rfl, rfl⟩).mpr taken⟩

/-- What holds up to a position, if all that holds anywhere has one width. -/
theorem exists_upto {width : Nat} (reflects : Reflects line R P) (fixed : ∀ ⦃i j⦄, R i j → j = i + width)
    (whole : line = before ++ rest) :
    (∃ k, R k before.length) ↔ ∃ early late seen after, before = early ++ late ∧ late.length = width ∧
      late ++ rest = seen ++ after ∧ P early seen after := by
  constructor
  · rintro ⟨k, related⟩
    have size := fixed related
    have cut : Cut line 0 before.length [] before rest := ⟨by simp [whole], rfl, by simp⟩
    obtain ⟨early, late, rfl, here⟩ := cut.split (Nat.zero_le k) (by omega)
    rw [Nat.zero_add] at here
    refine ⟨early, late, late, rest, rfl, ?_, rfl, (reflects ?_).mp related⟩
    · rw [List.length_append] at size
      omega
    · exact ⟨by simp [whole], here, by simp [here]⟩
  · rintro ⟨early, late, seen, after, rfl, size, same, taken⟩
    have related : R early.length (early.length + seen.length) :=
      (reflects ⟨by rw [whole, List.append_assoc, same], rfl, rfl⟩).mpr taken
    have width_eq := fixed related
    refine ⟨early.length, ?_⟩
    rw [List.length_append, size]
    rwa [width_eq] at related

end Reflects

theorem wordAfter_iff (whole : line = before ++ rest) :
    WordAfter line before.length ↔ startsWithWord rest = true := by
  subst whole
  cases rest <;> simp [WordAfter, startsWithWord]

theorem wordBefore_iff (whole : line = before ++ rest) :
    WordBefore line before.length ↔ startsWithWord before.reverse = true := by
  rcases List.eq_nil_or_concat before with rfl | ⟨others, c, rfl⟩
  · simp [WordBefore, startsWithWord]
  · have last : WordAfter line others.length ↔ startsWithWord (c :: rest) = true :=
      wordAfter_iff (by simp [whole])
    simpa [WordBefore, startsWithWord] using last

theorem Anchor.means_iff_holds (whole : line = before ++ rest) (condition : Anchor) :
    condition.Means line before.length ↔ condition.holds (.between before rest) = true := by
  have alike : (WordBefore line before.length ↔ WordAfter line before.length) ↔
      startsWithWord before.reverse = startsWithWord rest := by
    rw [wordBefore_iff whole, wordAfter_iff whole, ← Bool.eq_iff_iff]
  cases condition with
  | start => simp [Anchor.Means, holds, Cursor.between]
  | lineStart =>
      rcases List.eq_nil_or_concat before with rfl | ⟨others, c, rfl⟩
      · simp [Anchor.Means, holds, Cursor.between]
      · simp [Anchor.Means, holds, Cursor.between, whole]
  | anyLineEnd =>
      subst whole
      cases rest <;> simp [Anchor.Means, holds, Cursor.between, Cursor.ofLine]
  | textEnd => simp [Anchor.Means, holds, Cursor.between, Cursor.ofLine, whole]
  | lineEnd =>
      subst whole
      cases rest with
      | nil => simp [Anchor.Means, holds, Cursor.between, Cursor.ofLine]
      | cons c rest => cases rest <;> simp [Anchor.Means, holds, Cursor.between, Cursor.ofLine]
  | boundary =>
      change _ ↔ (startsWithWord before.reverse != startsWithWord rest) = true
      rw [Anchor.Means, alike, bne_iff_ne]
  | interior =>
      change _ ↔ (!(before.reverse.isEmpty && rest.isEmpty) &&
        startsWithWord before.reverse == startsWithWord rest) = true
      rw [Anchor.Means, alike, Bool.and_eq_true, beq_iff_eq]
      refine and_congr_left' ?_
      simp [whole, imp_iff_not_or]

theorem Bounds.Ordered.holds_iff {bounds : Bounds} (ordered : bounds.Ordered) :
    bounds.Holds n ↔ bounds.Allows n := by
  refine and_congr_right fun enough => forall_congr' fun most => forall_congr' fun limited => ?_
  have := ordered most limited
  omega

theorem reflects_passes (test : CharTest) : Reflects line (test.Passes line) (char test).Takes := by
  intro i j before text rest cut
  have size := cut.stop
  constructor
  · rintro ⟨rfl, c, found, accepted⟩
    obtain ⟨d, rfl⟩ := List.length_eq_one_iff.mp (show text.length = 1 by omega)
    rw [cut.drop_eq] at found
    cases found
    exact ⟨c, rfl, accepted⟩
  · rintro ⟨c, rfl, accepted⟩
    exact ⟨size.symm, c, by rw [cut.drop_eq]; rfl, accepted⟩

theorem chained_char {test : CharTest} :
    Chained (char test).Takes n before text rest ↔ text.length = n ∧ ∀ c ∈ text, test.accepts c = true := by
  induction n generalizing before text with
  | zero => simp +contextual [Chained]
  | succ n ih =>
      simp only [Chained, ih]
      cases text with
      | nil => simp [Takes]
      | cons c text =>
          constructor
          · rintro ⟨_, others, split, ⟨d, rfl, accepted⟩, size, all⟩
            cases split
            exact ⟨by simpa using size, List.forall_mem_cons.mpr ⟨accepted, all⟩⟩
          · rintro ⟨size, all⟩
            obtain ⟨accepted, others⟩ := List.forall_mem_cons.mp all
            exact ⟨[c], text, rfl, ⟨c, rfl, accepted⟩, by simpa using size, others⟩

/-- Between positions a pattern that has been read holds exactly where it takes the text. -/
theorem reflects_means {p : Pattern} (formed : p.WellFormed) (free : p.referenceFree = true) :
    Reflects line (p.Means line) p.Takes := by
  induction p with
  | empty => exact fun _ _ _ _ _ cut => cut.empty_iff
  | char test => exact reflects_passes test
  | span test bounds preference =>
      intro i j before text rest cut
      have steps n := ((reflects_passes test).steps (onwards_passes test) n cut).trans chained_char
      simp only [Means, Takes, steps, formed.holds_iff]
      constructor
      · rintro ⟨n, allowed, rfl, all⟩
        exact ⟨allowed, all⟩
      · rintro ⟨allowed, all⟩
        exact ⟨_, allowed, rfl, all⟩
  | seq first second ih ih' =>
      rw [referenceFree, Bool.and_eq_true] at free
      exact (ih formed.1 free.1).append (onwards_means first) (ih' formed.2 free.2) (onwards_means second)
  | alt first second ih ih' =>
      rw [referenceFree, Bool.and_eq_true] at free
      exact fun _ _ _ _ _ cut => or_congr (ih formed.1 free.1 cut) (ih' formed.2 free.2 cut)
  | iterate body bounds preference ih =>
      intro i j before text rest cut
      exact exists_congr fun n => and_congr formed.1.holds_iff
        ((ih formed.2 free).steps (onwards_means body) n cut)
  | group index body ih => exact ih formed free
  | again | atomic | conditional => cases free
  | anchor condition =>
      intro i j before text rest cut
      rw [Means, cut.empty_iff, Takes]
      refine and_congr_right fun empty => ?_
      obtain ⟨whole, rfl, -⟩ := cut
      exact condition.means_iff_holds (by simpa [empty] using whole)
  | look direction negated body ih =>
      intro i j before text rest cut
      cases direction with
      | ahead =>
          rw [Means, cut.empty_iff, Takes]
          refine and_congr_right fun empty => iff_congr ?_ Iff.rfl
          obtain ⟨whole, rfl, -⟩ := cut
          exact (ih formed free).exists_onwards (onwards_means body) (by simpa [empty] using whole)
      | behind width =>
          obtain ⟨formed, groups, fixed⟩ := formed
          have one_width ⦃i j : Nat⦄ (means : body.Means line i j) : j = i + width := by
            obtain ⟨m, rfl, spans⟩ := means.spans groups
            rw [fixed, Width.spans_exactly] at spans
            rw [spans]
          rw [Means, cut.empty_iff, Takes]
          refine and_congr_right fun empty => iff_congr ?_ Iff.rfl
          obtain ⟨whole, rfl, -⟩ := cut
          exact (ih formed free).exists_upto one_width (by simpa [empty] using whole)

theorem search_iff_means {p : Pattern} (formed : p.WellFormed) (free : p.referenceFree = true) :
    p.search line = true ↔ ∃ i j, i ≤ j ∧ j ≤ line.length ∧ p.Means line i j := by
  rw [search_iff free]
  constructor
  · rintro ⟨before, rest, whole, starts⟩
    obtain ⟨j, means⟩ := ((reflects_means formed free).exists_onwards (onwards_means p) whole).mpr starts
    obtain ⟨ordered, inside⟩ := onwards_means p means
    exact ⟨_, j, ordered, inside (by simp [whole]), means⟩
  · rintro ⟨i, j, ordered, inside, means⟩
    obtain ⟨before, text, rest, cut⟩ := Cut.exists_of_le ordered inside
    obtain ⟨whole, rfl, -⟩ := cut
    exact ⟨before, text ++ rest, whole,
      ((reflects_means formed free).exists_onwards (onwards_means p) whole).mp ⟨j, means⟩⟩

end ContractScan.Pattern
