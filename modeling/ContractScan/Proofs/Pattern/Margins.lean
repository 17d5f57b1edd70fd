import ContractScan.Proofs.Pattern.Adequacy
import ContractScan.Proofs.Text.Lowering

/-! # Patterns that do not see the margins of a line

Blanks around a line can change what a pattern finds: `^x` and ` x` see the left margin, `x$` and `x ` the
right one. `Pattern.ignoresMargins` is a check on the pattern alone. A pattern that passes it starts with a
character that is not blank and either ends with one, or ends with runs and look-aheads that find at the end
of the line what they find inside a margin. For such a pattern searching a line and its trimmed form agree.
-/

namespace ContractScan.Pattern

open Text

def CharTest.rejectsBlanks (test : CharTest) : Bool :=
  blankCodes.all fun code => !test.admits code

def CharTest.acceptsBlanks (test : CharTest) : Bool :=
  blankCodes.all fun code => test.admits code

theorem CharTest.accepts_blank (test : CharTest) {c : Char} (h : isBlank c = true) :
    test.accepts c = test.admits c.toNat := by
  rw [accepts, Case.lowerCode_blank h]

theorem CharTest.not_blank_of_accepts {test : CharTest} (h : test.rejectsBlanks = true) {c : Char}
    (accepted : test.accepts c = true) : isBlank c = false := by
  rw [Bool.eq_false_iff]
  intro blank
  have rejected := List.all_eq_true.mp h _ (mem_blankCodes blank)
  rw [← test.accepts_blank blank, accepted] at rejected
  cases rejected

theorem CharTest.accepts_of_allBlank {test : CharTest} (h : test.acceptsBlanks = true) {u : List Char}
    (hu : AllBlank u) : ∀ c ∈ u, test.accepts c = true := by
  intro c hc
  rw [test.accepts_blank (hu c hc)]
  exact List.all_eq_true.mp h _ (mem_blankCodes (hu c hc))

/-- The pattern never takes a character. -/
def zeroWidth : Pattern → Bool
  | .empty | .anchor _ | .look _ _ _ => true
  | _ => false

inductive Side where
  | left
  | right

def Side.edge : Side → List Char → Option Char
  | .left, text => text.head?
  | .right, text => text.getLast?

theorem Side.exists_edge (side : Side) {text : List Char} (h : text ≠ []) :
    ∃ c ∈ text, side.edge text = some c := by
  cases side with
  | left => exact ⟨text.head h, List.head_mem h, List.head?_eq_some_head h⟩
  | right => exact ⟨text.getLast h, List.getLast_mem h, List.getLast?_eq_some_getLast h⟩

/-- What the pattern takes always has a character at this end, which is not blank. -/
def isSolid (side : Side) : Pattern → Bool
  | .char test => test.rejectsBlanks
  | .span test bounds _ => test.rejectsBlanks && 0 < bounds.min
  | .seq first second =>
    match side with
    | .left => first.isSolid side || first.zeroWidth && second.isSolid side
    | .right => second.isSolid side || second.zeroWidth && first.isSolid side
  | .alt first second => first.isSolid side && second.isSolid side
  | .group _ body => body.isSolid side
  | _ => false

/-- A run of any length, also of no character. -/
def isRun : Pattern → Bool
  | .span _ ⟨0, none⟩ _ => true
  | _ => false

mutual

/-- What the pattern takes at a place does not depend on the margins. -/
def isLocal : Pattern → Bool
  | .empty | .char _ | .span _ _ _ | .anchor .boundary => true
  | .seq first second => first.isLocal && second.isLocal
  | .alt first second => first.isLocal && second.isLocal
  | .group _ body => body.isLocal
  | .look .ahead _ body => body.isStable
  | _ => false

/-- Whether the pattern can match at a place does not depend on the margins, and it can match inside the
right margin exactly when it can match at the end of the trimmed line. -/
def isStable : Pattern → Bool
  | .char test => test.rejectsBlanks
  | .seq first second =>
    first.isLocal && second.isLocal && (first.seq second).isSolid .right ||
      second.isStable && (first.isRun || first.isLocal && (first.isSolid .right || second.isSolid .left))
  | .alt first second => first.isStable && second.isStable
  | .group _ body => body.isStable
  | .look .ahead _ body => body.isStable
  | _ => false

end

/-- The pattern finds the same in a line and in the trimmed line. At the start of a line it may pass over
blanks, anywhere else it has to start with another character. -/
def ignoresMargins : Pattern → Bool
  | .seq (.anchor .start) (.seq (.span test ⟨0, none⟩ _) body) =>
    test.acceptsBlanks && body.isSolid .left && body.isStable
  | pattern => pattern.isSolid .left && pattern.isStable

theorem zeroWidth_takes {pattern : Pattern} (h : pattern.zeroWidth = true) {before text rest : List Char}
    (taken : pattern.Takes before text rest) : text = [] := by
  cases pattern with
  | empty => exact taken
  | anchor condition => exact taken.1
  | look direction negated body =>
      cases direction with
      | ahead => exact taken.1
      | behind width => exact taken.1
  | _ => cases h

theorem isSolid_takes {side : Side} {pattern : Pattern} (h : pattern.isSolid side = true)
    {before text rest : List Char} (taken : pattern.Takes before text rest) :
    ∃ c, side.edge text = some c ∧ isBlank c = false := by
  induction pattern generalizing before text rest with
  | char test =>
      obtain ⟨c, rfl, accepted⟩ := taken
      exact ⟨c, by cases side <;> rfl, CharTest.not_blank_of_accepts h accepted⟩
  | span test bounds preference =>
      rw [isSolid, Bool.and_eq_true, decide_eq_true_iff] at h
      obtain ⟨⟨enough, -⟩, all⟩ := taken
      obtain ⟨c, member, edge⟩ := side.exists_edge (List.length_pos_iff.mp (Nat.lt_of_lt_of_le h.2 enough))
      exact ⟨c, edge, CharTest.not_blank_of_accepts h.1 (all c member)⟩
  | seq first second ih ih' =>
      obtain ⟨one, other, rfl, taken, taken'⟩ := taken
      cases side with
      | left =>
          rw [isSolid, Bool.or_eq_true, Bool.and_eq_true] at h
          rcases h with h | ⟨zero, h⟩
          · obtain ⟨c, start, solid⟩ := ih h taken
            rw [Side.edge] at start
            exact ⟨c, by simp [Side.edge, start], solid⟩
          · cases zeroWidth_takes zero taken
            exact ih' h taken'
      | right =>
          rw [isSolid, Bool.or_eq_true, Bool.and_eq_true] at h
          rcases h with h | ⟨zero, h⟩
          · obtain ⟨c, last, solid⟩ := ih' h taken'
            rw [Side.edge] at last
            exact ⟨c, by simp [Side.edge, last], solid⟩
          · cases zeroWidth_takes zero taken'
            rw [List.append_nil]
            exact ih h taken
  | alt first second ih ih' =>
      rw [isSolid, Bool.and_eq_true] at h
      rcases taken with taken | taken
      · exact ih h.1 taken
      · exact ih' h.2 taken
  | group index body ih => exact ih h taken
  | _ => cases h

theorem isSolid_starts {pattern : Pattern} (h : pattern.isSolid .left = true)
    {before rest : List Char} (starts : pattern.Starts before rest) :
    ∃ c, rest.head? = some c ∧ isBlank c = false := by
  obtain ⟨text, later, rfl, taken⟩ := starts
  obtain ⟨c, start, solid⟩ := isSolid_takes h taken
  rw [Side.edge] at start
  exact ⟨c, by simp [start], solid⟩

/-- Margins of blanks do not change what the pattern takes. -/
def Local (pattern : Pattern) : Prop :=
  ∀ {u v : List Char}, AllBlank u → AllBlank v → ∀ (before text rest : List Char),
    pattern.Takes (u ++ before) text (rest ++ v) ↔ pattern.Takes before text rest

/-- Margins of blanks do not change whether the pattern matches at a place. The place may lie in the right
margin, of which `v` is passed then. -/
def Stable (pattern : Pattern) : Prop :=
  ∀ {u v w : List Char}, AllBlank u → AllBlank v → AllBlank w → ∀ (before rest : List Char),
    v = [] ∨ rest = [] → (pattern.Starts (u ++ before ++ v) (rest ++ w) ↔ pattern.Starts before rest)

theorem Stable.between {pattern : Pattern} (s : pattern.Stable) {u w : List Char} (hu : AllBlank u)
    (hw : AllBlank w) (before rest : List Char) :
    pattern.Starts (u ++ before) (rest ++ w) ↔ pattern.Starts before rest := by
  have same := s hu allBlank_nil hw before rest (.inl rfl)
  rwa [List.append_nil] at same

/-- A text whose last character is not blank does not reach into the margin. -/
theorem inside_of_getLast? {text later rest w : List Char} (split : rest ++ w = text ++ later)
    (hw : AllBlank w) {c : Char} (last : text.getLast? = some c) (solid : isBlank c = false) :
    ∃ middle, rest = text ++ middle ∧ later = middle ++ w := by
  rcases List.append_eq_append_iff.mp split with ⟨excess, rfl, rfl⟩ | ⟨middle, rfl, rfl⟩
  · rcases List.eq_nil_or_concat excess with rfl | ⟨others, d, rfl⟩
    · exact ⟨[], by simp, by simp⟩
    · have same : c = d := by simpa using last.symm
      rw [same, hw d (by simp)] at solid
      cases solid
  · exact ⟨middle, rfl, rfl⟩

/-- What follows a text up to a character that is not blank does not start in the margin. -/
theorem inside_of_head? {text later rest w : List Char} (split : rest ++ w = text ++ later)
    (hw : AllBlank w) {c : Char} (start : later.head? = some c) (solid : isBlank c = false) :
    ∃ middle, rest = text ++ middle ∧ later = middle ++ w := by
  rcases List.append_eq_append_iff.mp split with ⟨excess, rfl, rfl⟩ | ⟨middle, rfl, rfl⟩
  · cases later with
    | nil => cases start
    | cons d later =>
        cases start
        rw [hw c (by simp)] at solid
        cases solid
  · exact ⟨middle, rfl, rfl⟩

/-- A pattern that takes something solid does not match inside the margin, nor at the end. -/
theorem stable_of_not_blank {pattern : Pattern}
    (visible : ∀ {before rest}, pattern.Starts before rest → ¬ AllBlank rest)
    (same : ∀ {u w : List Char}, AllBlank u → AllBlank w → ∀ before rest,
      pattern.Starts (u ++ before) (rest ++ w) ↔ pattern.Starts before rest) : pattern.Stable := by
  intro u v w hu hv hw before rest place
  rcases place with rfl | rfl
  · rw [List.append_nil]
    exact same hu hw before rest
  · constructor
    · intro starts
      exact absurd hw (visible starts)
    · intro starts
      exact absurd allBlank_nil (visible starts)

theorem not_allBlank_of_getLast? {text : List Char} {c : Char} (last : text.getLast? = some c)
    (solid : isBlank c = false) (later : List Char) : ¬ AllBlank (text ++ later) := by
  intro blank
  rw [blank c (List.mem_append_left _ (List.mem_of_getLast? last))] at solid
  cases solid

theorem not_allBlank_of_head? {text : List Char} {c : Char} (start : text.head? = some c)
    (solid : isBlank c = false) (passed : List Char) : ¬ AllBlank (passed ++ text) := by
  intro blank
  rw [blank c (List.mem_append_right _ (List.mem_of_head? start))] at solid
  cases solid

theorem stable_of_local {pattern : Pattern} (l : pattern.Local) (h : pattern.isSolid .right = true) :
    pattern.Stable := by
  refine stable_of_not_blank ?_ fun {u w} hu hw before rest => ?_
  · rintro before _ ⟨text, later, rfl, taken⟩
    obtain ⟨c, last, solid⟩ := isSolid_takes h taken
    exact not_allBlank_of_getLast? last solid later
  · constructor
    · rintro ⟨text, later, split, taken⟩
      obtain ⟨c, last, solid⟩ := isSolid_takes h taken
      obtain ⟨middle, rfl, rfl⟩ := inside_of_getLast? split hw last solid
      exact ⟨text, middle, rfl, (l hu hw _ _ _).mp taken⟩
    · rintro ⟨text, later, rfl, taken⟩
      exact ⟨text, later ++ w, List.append_assoc _ _ _, (l hu hw _ _ _).mpr taken⟩

theorem stable_seq {first second : Pattern} (l : first.Local) (s : second.Stable)
    (h : first.isSolid .right = true ∨ second.isSolid .left = true) : (first.seq second).Stable := by
  refine stable_of_not_blank ?_ fun {u w} hu hw before rest => ?_
  · intro before rest starts
    obtain ⟨one, later, rfl, taken, starts⟩ := starts_seq.mp starts
    rcases h with h | h
    · obtain ⟨c, last, solid⟩ := isSolid_takes h taken
      exact not_allBlank_of_getLast? last solid later
    · obtain ⟨c, start, solid⟩ := isSolid_starts h starts
      exact not_allBlank_of_head? start solid one
  · rw [starts_seq, starts_seq]
    constructor
    · rintro ⟨one, later, split, taken, starts⟩
      -- Either way the first part ends before the right margin.
      obtain ⟨middle, rfl, rfl⟩ : ∃ middle, rest = one ++ middle ∧ later = middle ++ w := by
        rcases h with h | h
        · obtain ⟨c, last, solid⟩ := isSolid_takes h taken
          exact inside_of_getLast? split hw last solid
        · obtain ⟨c, start, solid⟩ := isSolid_starts h starts
          exact inside_of_head? split hw start solid
      rw [List.append_assoc, s.between hu hw] at starts
      exact ⟨one, middle, rfl, (l hu hw _ _ _).mp taken, starts⟩
    · rintro ⟨one, middle, rfl, taken, starts⟩
      rw [← s.between hu hw, ← List.append_assoc] at starts
      exact ⟨one, middle ++ w, List.append_assoc _ _ _, (l hu hw _ _ _).mpr taken, starts⟩

theorem exists_of_isRun {pattern : Pattern} (h : pattern.isRun = true) :
    ∃ test preference, pattern = span test ⟨0, none⟩ preference := by
  unfold isRun at h
  split at h
  · exact ⟨_, _, rfl⟩
  · cases h

/-- A run may go on into the right margin: what is taken there is cut off at the end of the trimmed line. -/
theorem stable_run {test : CharTest} {preference : Preference} {second : Pattern} (s : second.Stable) :
    ((span test ⟨0, none⟩ preference).seq second).Stable := by
  intro u v w hu hv hw before rest place
  -- Before the end of the trimmed line no part of the margin has been passed yet.
  have shift {one middle : List Char} (split : rest = one ++ middle) :
      u ++ before ++ v ++ one = u ++ (before ++ one) ++ v ∧ (v = [] ∨ middle = []) := by
    rcases place with rfl | rfl
    · exact ⟨by simp, .inl rfl⟩
    · obtain ⟨rfl, rfl⟩ := List.append_eq_nil_iff.mp split.symm
      exact ⟨by simp, .inr rfl⟩
  rw [starts_seq, starts_seq]
  simp only [takes_run]
  constructor
  · rintro ⟨one, later, split, all, starts⟩
    rcases List.append_eq_append_iff.mp split with ⟨excess, rfl, rfl⟩ | ⟨middle, rfl, rfl⟩
    · refine ⟨rest, [], by simp, fun c hc => all c (List.mem_append_left _ hc), ?_⟩
      have moved := (shift (List.append_nil rest).symm).1
      rw [← List.append_assoc, moved, List.append_assoc _ v excess] at starts
      exact (s hu (hv.append hw.left) hw.right (before ++ rest) [] (.inr rfl)).mp starts
    · obtain ⟨moved, place⟩ := shift rfl
      rw [moved] at starts
      exact ⟨one, middle, rfl, all, (s hu hv hw (before ++ one) middle place).mp starts⟩
  · rintro ⟨one, middle, rfl, all, starts⟩
    obtain ⟨moved, place⟩ := shift rfl
    refine ⟨one, middle ++ w, List.append_assoc _ _ _, all, ?_⟩
    rw [moved]
    exact (s hu hv hw (before ++ one) middle place).mpr starts

theorem startsWithWord_append_blank (text : List Char) {v : List Char} (hv : AllBlank v) :
    startsWithWord (text ++ v) = startsWithWord text := by
  cases text with
  | cons c text => rfl
  | nil =>
      cases v with
      | nil => rfl
      | cons b v => exact (blankCodes_plain _ (mem_blankCodes (hv b (.head _)))).1

theorem local_boundary : (anchor .boundary).Local := by
  intro u v hu hv before text rest
  simp only [Takes, Anchor.holds, Cursor.between, Cursor.ofLine, List.reverse_append,
    startsWithWord_append_blank _ hu.reverse, startsWithWord_append_blank _ hv]

theorem local_seq {first second : Pattern} (l : first.Local) (l' : second.Local) :
    (first.seq second).Local := by
  intro u v hu hv before text rest
  simp only [Takes]
  constructor
  · rintro ⟨one, other, rfl, taken, taken'⟩
    rw [← List.append_assoc, l hu hv] at taken
    rw [List.append_assoc, l' hu hv] at taken'
    exact ⟨one, other, rfl, taken, taken'⟩
  · rintro ⟨one, other, rfl, taken, taken'⟩
    rw [← l hu hv, List.append_assoc] at taken
    rw [← l' hu hv, ← List.append_assoc] at taken'
    exact ⟨one, other, rfl, taken, taken'⟩

theorem local_ahead {negated : Bool} {body : Pattern} (s : body.Stable) :
    (look .ahead negated body).Local := by
  intro u v hu hv before text rest
  exact and_congr Iff.rfl (iff_congr (s.between hu hv before rest) Iff.rfl)

theorem stable_ahead {negated : Bool} {body : Pattern} (s : body.Stable) :
    (look .ahead negated body).Stable := by
  intro u v w hu hv hw before rest place
  rw [starts_ahead, starts_ahead, s hu hv hw before rest place]

theorem local_and_stable (pattern : Pattern) :
    (pattern.isLocal = true → pattern.Local) ∧ (pattern.isStable = true → pattern.Stable) := by
  -- Both at once: a sequence is stable by what its parts take, and a look-ahead is local
  -- if its body is stable.
  induction pattern with
  | empty =>
      constructor
      · intro _ u v hu hv before text rest
        exact Iff.rfl
      · intro h
        cases h
  | char test =>
      have l : (char test).Local := fun _ _ _ _ _ => Iff.rfl
      exact ⟨fun _ => l, fun h => stable_of_local l h⟩
  | span test bounds preference =>
      constructor
      · intro _ u v hu hv before text rest
        exact Iff.rfl
      · intro h
        cases h
  | seq first second ih ih' =>
      constructor
      · intro h
        rw [isLocal, Bool.and_eq_true] at h
        exact local_seq (ih.1 h.1) (ih'.1 h.2)
      · intro h
        simp only [isStable, Bool.or_eq_true, Bool.and_eq_true] at h
        rcases h with ⟨⟨l, l'⟩, solid⟩ | ⟨s, run | ⟨l, solid⟩⟩
        · exact stable_of_local (local_seq (ih.1 l) (ih'.1 l')) solid
        · obtain ⟨test, preference, rfl⟩ := exists_of_isRun run
          exact stable_run (ih'.2 s)
        · exact stable_seq (ih.1 l) (ih'.2 s) solid
  | alt first second ih ih' =>
      constructor
      · intro h
        rw [isLocal, Bool.and_eq_true] at h
        intro u v hu hv before text rest
        exact or_congr (ih.1 h.1 hu hv before text rest) (ih'.1 h.2 hu hv before text rest)
      · intro h
        rw [isStable, Bool.and_eq_true] at h
        intro u v w hu hv hw before rest place
        rw [starts_alt, starts_alt, ih.2 h.1 hu hv hw before rest place, ih'.2 h.2 hu hv hw before rest place]
  | group index body ih => exact ih
  | anchor condition =>
      refine ⟨fun h => ?_, fun h => by cases h⟩
      cases condition with
      | boundary => exact local_boundary
      | _ => cases h
  | look direction negated body ih =>
      cases direction with
      | ahead => exact ⟨fun h => local_ahead (ih.2 h), fun h => stable_ahead (ih.2 h)⟩
      | behind width => constructor <;> (intro h; cases h)
  | _ => constructor <;> (intro h; cases h)

/-- A place where something solid starts lies between the margins. -/
theorem place_between {u code v before rest : List Char} (hu : AllBlank u) (hv : AllBlank v)
    (split : u ++ code ++ v = before ++ rest) {c : Char} (start : rest.head? = some c)
    (solid : isBlank c = false) :
    ∃ early late, before = u ++ early ∧ code = early ++ late ∧ rest = late ++ v := by
  obtain ⟨middle, inner, rfl⟩ := inside_of_head? split hv start solid
  rcases List.append_eq_append_iff.mp inner with ⟨early, rfl, rfl⟩ | ⟨excess, rfl, rfl⟩
  · exact ⟨early, middle, rfl, rfl, rfl⟩
  · cases excess with
    | nil => exact ⟨[], code, by simp, rfl, by simp⟩
    | cons d excess =>
        cases start
        rw [hu c (by simp)] at solid
        cases solid

theorem search_from_start {test : CharTest} {preference : Preference} {body : Pattern}
    (free : body.referenceFree = true) {line : List Char} :
    search (.seq (.anchor .start) (.seq (.span test ⟨0, none⟩ preference) body)) line = true ↔
      ∃ passed later, line = passed ++ later ∧ (∀ c ∈ passed, test.accepts c = true) ∧
        body.Starts passed later := by
  rw [search_iff (by simpa [referenceFree] using free)]
  simp only [starts_seq, takes_run]
  constructor
  · rintro ⟨before, rest, rfl, _, _, rfl, ⟨rfl, first⟩, passed, later, rfl, all, starts⟩
    obtain rfl : before = [] := by simpa [Anchor.holds, Cursor.between] using first
    exact ⟨passed, later, rfl, all, starts⟩
  · rintro ⟨passed, later, rfl, all, starts⟩
    exact ⟨[], passed ++ later, rfl, [], passed ++ later, rfl, ⟨rfl, rfl⟩, passed, later, rfl, all, starts⟩

section

variable {u v : List Char} (hu : AllBlank u) (code : List Char) (hv : AllBlank v)

include hu hv

theorem search_solid_between {pattern : Pattern} (free : pattern.referenceFree = true)
    (solid : pattern.isSolid .left = true) (stable : pattern.Stable) :
    pattern.search (u ++ code ++ v) = true ↔ pattern.search code = true := by
  rw [search_iff free, search_iff free]
  constructor
  · rintro ⟨before, rest, split, starts⟩
    obtain ⟨c, start, visible⟩ := isSolid_starts solid starts
    obtain ⟨early, late, rfl, rfl, rfl⟩ := place_between hu hv split start visible
    exact ⟨early, late, rfl, (stable.between hu hv early late).mp starts⟩
  · rintro ⟨early, late, rfl, starts⟩
    exact ⟨u ++ early, late ++ v, by simp, (stable.between hu hv early late).mpr starts⟩

/-- At the start of a line the left margin has to be passed. -/
theorem search_start_between {test : CharTest} {preference : Preference} {body : Pattern}
    (free : body.referenceFree = true) (blanks : test.acceptsBlanks = true)
    (solid : body.isSolid .left = true) (stable : body.Stable) :
    search (.seq (.anchor .start) (.seq (.span test ⟨0, none⟩ preference) body)) (u ++ code ++ v) = true ↔
      search (.seq (.anchor .start) (.seq (.span test ⟨0, none⟩ preference) body)) code = true := by
  rw [search_from_start free, search_from_start free]
  constructor
  · rintro ⟨passed, later, split, all, starts⟩
    obtain ⟨c, start, visible⟩ := isSolid_starts solid starts
    obtain ⟨early, late, rfl, rfl, rfl⟩ := place_between hu hv split start visible
    exact ⟨early, late, rfl, fun c hc => all c (List.mem_append_right _ hc),
      (stable.between hu hv early late).mp starts⟩
  · rintro ⟨early, late, rfl, all, starts⟩
    refine ⟨u ++ early, late ++ v, by simp, ?_, (stable.between hu hv early late).mpr starts⟩
    exact List.forall_mem_append.mpr ⟨CharTest.accepts_of_allBlank blanks hu, all⟩

theorem search_between {pattern : Pattern} (free : pattern.referenceFree = true)
    (h : pattern.ignoresMargins = true) : pattern.search (u ++ code ++ v) = pattern.search code := by
  rw [Bool.eq_iff_iff]
  unfold ignoresMargins at h
  split at h
  · rename_i test preference body
    simp only [Bool.and_eq_true] at h
    obtain ⟨⟨blanks, solid⟩, stable⟩ := h
    have body_free : body.referenceFree = true := by simpa [referenceFree] using free
    exact search_start_between hu code hv body_free blanks solid ((local_and_stable body).2 stable)
  · rw [Bool.and_eq_true] at h
    exact search_solid_between hu code hv free h.1 ((local_and_stable _).2 h.2)

end

end ContractScan.Pattern
