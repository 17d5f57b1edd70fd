import ContractScan.Proofs.Text.Trim
import ContractScan.Text.Lines
import Mathlib.Data.List.Forall2

/-! # Lines and the blanks around them

Blanks that are put around the lines of a text, carriage returns among them, change the lines but not the
trimmed lines. This holds of new margins, of a carriage return before every line feed, and of making line
ends uniform, as long as no carriage return stands alone. Line ends can be made uniform piece by piece, as long
as no carriage return is cut from its line feed.
-/

namespace ContractScan.Text

theorem splitOn_feed (rest : List Char) : ('\n' :: rest).splitOn '\n' = [] :: rest.splitOn '\n' := by
  simp [List.splitOn_cons_eq_if_modifyHead]

theorem splitOn_char {c : Char} (h : c ≠ '\n') (rest : List Char) :
    (c :: rest).splitOn '\n' = (rest.splitOn '\n').modifyHead (List.cons c) := by
  simp [List.splitOn_cons_eq_if_modifyHead, h]

theorem not_mem_of_mem_splitOn {mark : Char} {text piece : List Char} (h : piece ∈ text.splitOn mark) :
    mark ∉ piece := by
  induction text generalizing piece with
  | nil =>
      cases List.mem_singleton.mp h
      exact List.not_mem_nil
  | cons c rest ih =>
      rw [List.splitOn_cons_eq_if_modifyHead] at h
      by_cases here : c = mark
      · rw [if_pos (beq_iff_eq.mpr here)] at h
        rcases List.mem_cons.mp h with rfl | h
        · exact List.not_mem_nil
        · exact ih h
      · rw [if_neg (mt beq_iff_eq.mp here)] at h
        cases split : rest.splitOn mark with
        | nil => exact absurd split (List.splitOn_ne_nil _ _)
        | cons first others =>
            rw [split, List.modifyHead_cons] at h
            rcases List.mem_cons.mp h with rfl | h
            · have inner := ih (split ▸ List.mem_cons_self)
              simp [Ne.symm here, inner]
            · exact ih (split ▸ List.mem_cons_of_mem _ h)

theorem trimmed_ofList (line : List Char) : trimmed (String.ofList line) = String.ofList (trim line) := by
  simp [trimmed]

theorem map_trimmed_lines (text : String) :
    (lines text).map trimmed = ((text.toList.splitOn '\n').map trim).map String.ofList := by
  simp only [lines, List.map_map, Function.comp_def, trimmed_ofList]

theorem not_mem_of_mem_lines {text line : String} (h : line ∈ lines text) : '\n' ∉ line.toList := by
  obtain ⟨piece, cut, rfl⟩ := List.mem_map.mp h
  simpa using not_mem_of_mem_splitOn cut

theorem lines_of_not_mem {line : String} (h : '\n' ∉ line.toList) : lines line = [line] := by
  simp [lines, List.splitOn_eq_singleton h]

theorem lines_append (text other : String) : lines (text ++ "\n" ++ other) = lines text ++ lines other := by
  simp [lines, List.splitOn_append_cons_self]

theorem length_lines (text : String) : (lines text).length = 1 + text.toList.count '\n' := by
  simp only [lines, List.length_map]
  induction text.toList with
  | nil => rfl
  | cons c rest ih =>
      by_cases feed : c = '\n'
      · subst feed
        simp only [splitOn_feed, List.length_cons, List.count_cons_self, ih]
        omega
      · simp [splitOn_char feed, List.count_cons_of_ne feed, ih]

/-- A text is blank when all its lines are; line feeds are blanks themselves. -/
theorem allBlank_iff_splitOn {text : List Char} :
    AllBlank text ↔ ∀ line ∈ text.splitOn '\n', AllBlank line := by
  induction text with
  | nil => simp [AllBlank]
  | cons c rest ih =>
      by_cases feed : c = '\n'
      · subst feed
        rw [splitOn_feed, allBlank_cons, ih, List.forall_mem_cons]
        exact and_congr (iff_of_true (by decide) allBlank_nil) Iff.rfl
      · rw [splitOn_char feed, allBlank_cons, ih]
        cases pieces : rest.splitOn '\n' with
        | nil => exact absurd pieces (List.splitOn_ne_nil _ _)
        | cons first others =>
            rw [List.modifyHead_cons, List.forall_mem_cons, List.forall_mem_cons, allBlank_cons, and_assoc]

theorem isAllBlank_iff_lines {text : String} :
    isAllBlank text = true ↔ ∀ line ∈ (lines text).map trimmed, line = "" := by
  rw [isAllBlank_iff, allBlank_iff_splitOn, map_trimmed_lines]
  simp [← trim_eq_nil]

/-- Blanks that can stand before or after a line. -/
structure IsMargin (margin : List Char) : Prop where
  blank : AllBlank margin
  inLine : '\n' ∉ margin

theorem isMargin_nil : IsMargin [] :=
  ⟨allBlank_nil, List.not_mem_nil⟩

theorem isMargin_return : IsMargin ['\r'] :=
  ⟨allBlank_cons.mpr ⟨by decide, allBlank_nil⟩, by decide⟩

/-- The text with margins of its own around every line; the first line has number zero. -/
def respaced (left right : Nat → List Char) (text : String) : String :=
  String.ofList (['\n'].intercalate
    ((text.toList.splitOn '\n').mapIdx fun number line => left number ++ line ++ right number))

theorem map_trimmed_respaced {left right : Nat → List Char} (hl : ∀ number, IsMargin (left number))
    (hr : ∀ number, IsMargin (right number)) (text : String) :
    (lines (respaced left right text)).map trimmed = (lines text).map trimmed := by
  rw [map_trimmed_lines, map_trimmed_lines, respaced, String.toList_ofList, List.splitOn_intercalate]
  · congr 1
    refine List.ext_getElem? fun number => ?_
    simp only [List.getElem?_map, List.getElem?_mapIdx, Option.map_map, Function.comp_def,
      trim_between (hl number).blank _ (hr number).blank]
  · intro line member
    obtain ⟨number, bound, rfl⟩ := List.mem_mapIdx.mp member
    have inner := not_mem_of_mem_splitOn (List.getElem_mem bound)
    simp [(hl number).inLine, (hr number).inLine, inner]
  · simp [List.splitOn_ne_nil]

/-- Every line is the other one with a margin after it. -/
def Padded (lines others : List (List Char)) : Prop :=
  List.Forall₂ (fun line other => ∃ v, IsMargin v ∧ line = other ++ v) lines others

theorem Padded.map_trim {lines others : List (List Char)} (h : Padded lines others) :
    lines.map trim = others.map trim := by
  induction h with
  | nil => rfl
  | cons first _ ih =>
      obtain ⟨v, margin, rfl⟩ := first
      rw [List.map_cons, List.map_cons, ih]
      exact congrArg (· :: _) (trim_between allBlank_nil _ margin.blank)

theorem Padded.nil : Padded (List.splitOn '\n' []) (List.splitOn '\n' []) :=
  List.Forall₂.cons ⟨[], isMargin_nil, rfl⟩ .nil

theorem Padded.char {c : Char} (h : c ≠ '\n') {text other : List Char}
    (padded : Padded (text.splitOn '\n') (other.splitOn '\n')) :
    Padded ((c :: text).splitOn '\n') ((c :: other).splitOn '\n') := by
  rw [splitOn_char h, splitOn_char h]
  generalize text.splitOn '\n' = lines, other.splitOn '\n' = others at padded
  cases padded with
  | nil => exact List.Forall₂.nil
  | cons first others =>
      obtain ⟨v, margin, rfl⟩ := first
      exact List.Forall₂.cons ⟨v, margin, rfl⟩ others

theorem Padded.feed {v : List Char} (margin : IsMargin v) {text other : List Char}
    (padded : Padded (text.splitOn '\n') (other.splitOn '\n')) :
    Padded ((v ++ '\n' :: text).splitOn '\n') (('\n' :: other).splitOn '\n') := by
  rw [List.splitOn_append_cons_self_of_not_mem margin.inLine, splitOn_feed]
  exact List.Forall₂.cons ⟨v, margin, rfl⟩ padded

/-- A carriage return before every line feed. -/
def withReturns (text : String) : String :=
  String.ofList (text.toList.flatMap fun c => if c = '\n' then ['\r', '\n'] else [c])

theorem padded_returns (text : List Char) : Padded
    ((text.flatMap fun c => if c = '\n' then ['\r', '\n'] else [c]).splitOn '\n')
    (text.splitOn '\n') := by
  induction text with
  | nil => exact .nil
  | cons c text ih =>
      rw [List.flatMap_cons]
      split
      · rename_i feed
        subst feed
        exact .feed isMargin_return ih
      · rename_i other
        exact .char other ih

theorem map_trimmed_withReturns (text : String) :
    (lines (withReturns text)).map trimmed = (lines text).map trimmed := by
  rw [map_trimmed_lines, map_trimmed_lines, withReturns, String.toList_ofList,
    (padded_returns _).map_trim]

/-- No carriage return stands alone: every one has a line feed right after it. -/
def ReturnsPaired (text : List Char) : Prop :=
  ∀ before rest, text = before ++ '\r' :: rest → ∃ later, rest = '\n' :: later

theorem returnsPaired_nil : ReturnsPaired [] := by
  intro before rest split
  cases before <;> cases split

theorem returnsPaired_cons {c : Char} {text : List Char} :
    ReturnsPaired (c :: text) ↔ (c = '\r' → text.head? = some '\n') ∧ ReturnsPaired text := by
  constructor
  · intro paired
    constructor
    · rintro rfl
      exact List.head?_eq_some_iff.mpr (paired [] text rfl)
    · rintro before rest rfl
      exact paired (c :: before) rest rfl
  · rintro ⟨first, others⟩ before rest split
    cases before with
    | nil =>
        cases split
        exact List.head?_eq_some_iff.mp (first rfl)
    | cons d before =>
        cases split
        exact others before rest rfl

instance decidableReturnsPaired : DecidablePred ReturnsPaired
  | [] => isTrue returnsPaired_nil
  | _ :: text =>
    have := decidableReturnsPaired text
    decidable_of_iff _ returnsPaired_cons.symm

theorem padded_unifyLineEnds {text : List Char} (h : ReturnsPaired text) :
    Padded (text.splitOn '\n') ((unifyLineEnds text).splitOn '\n') := by
  fun_induction unifyLineEnds text with
  | case1 => exact .nil
  | case2 rest ih =>
      have later := (returnsPaired_cons.mp h).2
      exact .feed isMargin_return (ih (returnsPaired_cons.mp later).2)
  | case3 c rest alone ih =>
      obtain ⟨first, later⟩ := returnsPaired_cons.mp h
      by_cases lone : c = '\r'
      · obtain ⟨others, rfl⟩ := List.head?_eq_some_iff.mp (first lone)
        exact absurd rfl (alone others lone)
      · rw [if_neg lone]
        by_cases feed : c = '\n'
        · subst feed
          exact .feed isMargin_nil (ih later)
        · exact .char feed (ih later)

theorem map_trimmed_unifyLineEnds {text : String} (h : ReturnsPaired text.toList) :
    (lines (String.ofList (unifyLineEnds text.toList))).map trimmed = (lines text).map trimmed := by
  rw [map_trimmed_lines, map_trimmed_lines, String.toList_ofList, (padded_unifyLineEnds h).map_trim]

theorem unifyLineEnds_cons {c : Char} {rest : List Char} (apart : c = '\r' → rest.head? ≠ some '\n') :
    unifyLineEnds (c :: rest) = (if c = '\r' then '\n' else c) :: unifyLineEnds rest := by
  rw [unifyLineEnds]
  intro later isReturn isFeed
  exact apart isReturn (by rw [isFeed]; rfl)

theorem unifyLineEnds_append {text other : List Char}
    (apart : text.getLast? = some '\r' → other.head? ≠ some '\n') :
    unifyLineEnds (text ++ other) = unifyLineEnds text ++ unifyLineEnds other := by
  fun_induction unifyLineEnds text with
  | case1 => rfl
  | case2 rest ih =>
      have later : rest.getLast? = some '\r' → other.head? ≠ some '\n' := by
        intro last
        apply apart
        simp [List.getLast?_cons, last]
      simp [unifyLineEnds, ih later]
  | case3 c rest alone ih =>
      cases rest with
      | nil =>
          rw [List.singleton_append, unifyLineEnds_cons (by simpa using apart)]
          simp [unifyLineEnds]
      | cons next rest =>
          have inner : c = '\r' → (next :: rest ++ other).head? ≠ some '\n' := by
            rintro rfl
            simpa using fun feed => alone rest rfl (by rw [feed])
          rw [List.cons_append, unifyLineEnds_cons inner, ih (by simpa using apart)]
          rfl

theorem mem_of_feed_mem_unifyLineEnds {text : List Char} (h : '\n' ∈ unifyLineEnds text) :
    '\n' ∈ text ∨ '\r' ∈ text := by
  fun_induction unifyLineEnds text with
  | case1 => simp at h
  | case2 rest ih => simp
  | case3 c rest alone ih =>
      rcases List.mem_cons.mp h with here | later
      · by_cases lone : c = '\r'
        · simp [lone]
        · rw [if_neg lone] at here
          exact .inl (here ▸ List.mem_cons_self)
      · exact (ih later).imp (List.mem_cons_of_mem c) (List.mem_cons_of_mem c)

theorem return_not_mem_unifyLineEnds (text : List Char) : '\r' ∉ unifyLineEnds text := by
  fun_induction unifyLineEnds text with
  | case1 => simp
  | case2 rest ih => simpa using ih
  | case3 c rest alone ih =>
      by_cases lone : c = '\r'
      · simpa [lone] using ih
      · simpa [lone, Ne.symm lone] using ih

theorem unifyLineEnds_of_not_mem {text : List Char} (h : '\r' ∉ text) : unifyLineEnds text = text := by
  induction text with
  | nil => rfl
  | cons c rest ih =>
      obtain ⟨here, later⟩ := not_or.mp (mt List.mem_cons.mpr h)
      rw [unifyLineEnds_cons fun same => absurd same.symm here, if_neg (Ne.symm here), ih later]

/-- What becomes of a character by what stands before it: a carriage return becomes a line feed, and a line feed
that a carriage return stands before goes with it. -/
def uniformEnd (before : Option Char) (c : Char) : List Char :=
  if c = '\r' then ['\n'] else if c = '\n' ∧ before = some '\r' then [] else [c]

/-- Every character of a text with the one before it. -/
def withPrevious (text : List Char) : List (Option Char × Char) :=
  (none :: text.map some).zip text

/-- Making line ends uniform looks at each character and at the one before it, and at nothing else. -/
theorem unifyLineEnds_eq_flatMap (text : List Char) :
    unifyLineEnds text = (withPrevious text).flatMap fun (before, c) => uniformEnd before c := by
  have after (before : Option Char) (apart : before = some '\r' → text.head? ≠ some '\n') :
      ((before :: text.map some).zip text).flatMap (fun (before, c) => uniformEnd before c) =
        unifyLineEnds text := by
    fun_induction unifyLineEnds text generalizing before with
    | case1 => simp
    | case2 rest ih =>
        have later := ih (some '\n') (by simp)
        simpa [uniformEnd] using later
    | case3 c rest alone ih =>
        have single : c = '\r' → rest.head? ≠ some '\n' := by
          intro isReturn isFeed
          obtain ⟨others, rfl⟩ := List.head?_eq_some_iff.mp isFeed
          exact alone others isReturn rfl
        have later := ih (some c) (by simpa using single)
        have kept : ¬ (c = '\n' ∧ before = some '\r') := by
          rintro ⟨rfl, follows⟩
          exact apart follows rfl
        by_cases isReturn : c = '\r'
        · simpa [uniformEnd, isReturn] using later
        · simpa [uniformEnd, isReturn, kept] using later
  exact (after none (by simp)).symm

end ContractScan.Text
