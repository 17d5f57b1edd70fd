import ContractScan.Pattern.Parser
import Mathlib

/-! # What is read is well formed

A written pattern is refused when a repetition has its bounds the wrong way round or a look-behind has no fixed width.
The first is found at once. The second is only noted while reading, in a flag that is never taken back, and refused at
the end. So every step of reading is followed with one invariant: if the flag is down afterwards, it was down before,
and what has been read is well formed.
-/

set_option mvcgen.warning false

namespace ContractScan.Pattern

open Std.Do

/-- The fewest repetitions are not more than the most. -/
def Bounds.Ordered (bounds : Bounds) : Prop :=
  ∀ most, bounds.max = some most → bounds.min ≤ most

/-- The bounds of every repetition are ordered, and every look-behind goes back by the one width of its body. -/
def WellFormed : Pattern → Prop
  | .span _ bounds _ => bounds.Ordered
  | .seq first second => first.WellFormed ∧ second.WellFormed
  | .alt first second => first.WellFormed ∧ second.WellFormed
  | .iterate body bounds _ => bounds.Ordered ∧ body.WellFormed
  | .group _ body | .atomic body => body.WellFormed
  | .conditional _ yes no => yes.WellFormed ∧ no.WellFormed
  | .look .ahead _ body => body.WellFormed
  | .look (.behind width) _ body => body.WellFormed ∧ ∃ groups, body.width groups = .exactly width
  | _ => True

theorem Width.exactly_min {width : Width} (fixed : width.isFixed = true) : .exactly width.min = width := by
  have agree : width.max = some width.min := by simpa [isFixed] using fixed
  rw [exactly, ← agree]

/-! Putting patterns together keeps them well formed. -/

theorem wellFormed_sequence {ps : List Pattern} (formed : ∀ p ∈ ps, p.WellFormed) : (sequence ps).WellFormed := by
  induction ps with
  | nil => trivial
  | cons p ps ih =>
      cases ps with
      | nil => exact formed p List.mem_cons_self
      | cons q ps => exact ⟨formed p List.mem_cons_self, ih fun r member => formed r (List.mem_cons_of_mem p member)⟩

theorem wellFormed_parts {p : Pattern} (formed : p.WellFormed) : ∀ q ∈ p.parts, q.WellFormed := by
  induction p with
  | seq first second ih ih' =>
      intro q member
      rw [parts, List.mem_append] at member
      exact member.elim (ih formed.1 q) (ih' formed.2 q)
  | empty => simp [parts]
  | _ => simpa [parts] using formed

/-- Each list is the common start and what is left of it. -/
theorem map_append_splitStart (first : List Pattern) (others : List (List Pattern)) :
    (splitStart first others).2.map ((splitStart first others).1 ++ ·) = first :: others := by
  induction first generalizing others with
  | nil => simp [splitStart]
  | cons p first ih =>
      rw [splitStart]
      split
      · rename_i common
        have heads : ∀ parts ∈ others, p :: parts.tail = parts := by
          simp only [Bool.and_eq_true, List.all_eq_true, decide_eq_true_eq] at common
          exact fun parts member => List.cons_head?_tail (common.2 parts member)
        have tails := congrArg (List.map (p :: ·)) (ih (others.map List.tail))
        rw [List.map_map, List.map_cons, List.map_map] at tails
        exact tails.trans (congrArg _ ((List.map_congr_left heads).trans (List.map_id others)))
      · simp

theorem wellFormed_chain {branches : List Pattern} (formed : ∀ p ∈ branches, p.WellFormed) :
    (chain branches).WellFormed := by
  induction branches with
  | nil => trivial
  | cons p branches ih =>
      cases branches with
      | nil => exact formed p List.mem_cons_self
      | cons q branches =>
          exact ⟨formed p List.mem_cons_self, ih fun r member => formed r (List.mem_cons_of_mem p member)⟩

theorem wellFormed_choice {branches : List Pattern} (formed : ∀ p ∈ branches, p.WellFormed) :
    (choice branches).WellFormed := by
  unfold choice
  split
  · trivial
  · exact wellFormed_chain formed

theorem wellFormed_alternatives {branches : List Pattern} (formed : ∀ p ∈ branches, p.WellFormed) :
    (alternatives branches).WellFormed := by
  unfold alternatives
  split
  · trivial
  · exact formed _ List.mem_cons_self
  · rename_i p ps _
    have lists := map_append_splitStart p.parts (ps.map parts)
    dsimp only
    generalize splitStart p.parts (ps.map parts) = split at lists
    obtain ⟨start, left⟩ := split
    -- The start with what is left of a branch is that branch, so all parts are well formed.
    have parted (rest : List Pattern) (member : rest ∈ left) : ∀ q ∈ start ++ rest, q.WellFormed := by
      have listed : start ++ rest ∈ (p :: ps).map parts := by
        rw [List.map_cons, ← lists]
        exact List.mem_map_of_mem member
      obtain ⟨branch, branched, same⟩ := List.mem_map.mp listed
      rw [← same]
      exact wellFormed_parts (formed branch branched)
    have nonempty : left ≠ [] := by
      rintro rfl
      cases lists
    obtain ⟨some, among⟩ := List.exists_mem_of_ne_nil left nonempty
    refine wellFormed_sequence fun q member => ?_
    rcases List.mem_append.mp member with common | last
    · exact parted some among q (List.mem_append_left _ common)
    · rw [List.mem_singleton.mp last]
      refine wellFormed_choice fun r chosen => ?_
      obtain ⟨rest, member, rfl⟩ := List.mem_map.mp chosen
      exact wellFormed_sequence fun q part => parted rest member q (List.mem_append_right _ part)

theorem wellFormed_repeated {body : Pattern} (formed : body.WellFormed) {bounds : Bounds} (ordered : bounds.Ordered)
    (preference : Preference) : (body.repeated bounds preference).WellFormed := by
  unfold repeated
  split
  · exact ordered
  · exact ⟨ordered, formed⟩

theorem wellFormed_possessive {body : Pattern} (formed : body.WellFormed) {bounds : Bounds} (ordered : bounds.Ordered) :
    (body.possessive bounds).WellFormed := by
  unfold possessive
  split
  · exact ordered
  · exact ⟨ordered, formed⟩

theorem wellFormed_once {body : Pattern} (formed : body.WellFormed) : body.once.WellFormed :=
  ⟨fun _ same => Nat.le_of_eq (Option.some.inj same), formed⟩

namespace Parser

variable {α : Type}

/-- What is known while reading. -/
abbrev Knowledge := Assertion (.arg Reading (.except Error .pure))

/-- The flag for look-behinds without a fixed width stands so. -/
abbrev Flag (flag : Bool) : Knowledge :=
  fun reading => ⌜reading.varying = flag⌝

/-- The flag stands so, and what has been read has the property. -/
abbrev FlagWith (flag : Bool) (C : Prop) : Knowledge :=
  fun reading => ⌜reading.varying = flag ∧ C⌝

/-- Unless the flag is up now, it was down before, and what has been read has the property. -/
abbrev Unflagged (flag : Bool) (C : Prop) : Knowledge :=
  fun reading => ⌜reading.varying = false → flag = false ∧ C⌝

@[spec]
theorem throw_spec (error : Error) {Q : α → Knowledge} :
    ⦃⌜True⌝⦄ (throw error : Parser α) ⦃⇓? read => Q read⦄ := by
  intro reading _
  trivial

@[spec]
theorem failAt_spec (position : Nat) (fault : Fault) {Q : α → Knowledge} :
    ⦃⌜True⌝⦄ (failAt position fault : Parser α) ⦃⇓? read => Q read⦄ :=
  throw_spec _

@[spec]
theorem failBack_spec (offset : Nat) (fault : Fault) {Q : α → Knowledge} :
    ⦃⌜True⌝⦄ (failBack offset fault : Parser α) ⦃⇓? read => Q read⦄ := by
  mvcgen [failBack]

/-! Most of reading leaves the flag alone. -/

section Quiet

variable (flag : Bool)

@[spec]
theorem advance_spec : ⦃Flag flag⦄ advance ⦃⇓? _ => Flag flag⦄ := by
  mvcgen [advance]

@[spec]
theorem accept_spec (c : Char) : ⦃Flag flag⦄ accept c ⦃⇓? _ => Flag flag⦄ := by
  mvcgen [accept, peek] with simp_all

@[spec]
theorem take_spec : ⦃Flag flag⦄ take ⦃⇓? _ => Flag flag⦄ := by
  mvcgen [take, peek] with simp_all

@[spec]
theorem takeWhile_spec (test : Char → Bool) (n : Nat) :
    ⦃Flag flag⦄ takeWhile test n ⦃⇓? _ => Flag flag⦄ := by
  induction n with
  | zero => mvcgen [takeWhile]
  | succ n ih => mvcgen [takeWhile, peek, ih] with simp_all

@[spec]
theorem nameUntil_spec (terminator : Char) (what : String) (fuel : Nat) (name : List Char) :
    ⦃Flag flag⦄ nameUntil terminator what fuel name ⦃⇓? _ => Flag flag⦄ := by
  induction fuel generalizing name with
  | zero => mvcgen [nameUntil]
  | succ fuel ih => mvcgen [nameUntil, ih] with simp_all

@[spec]
theorem closeParenthesis_spec (start : Nat) : ⦃Flag flag⦄ closeParenthesis start ⦃⇓? _ => Flag flag⦄ := by
  mvcgen [closeParenthesis] with simp_all

@[spec]
theorem comment_spec (start fuel : Nat) : ⦃Flag flag⦄ comment start fuel ⦃⇓? _ => Flag flag⦄ := by
  induction fuel with
  | zero => mvcgen [comment]
  | succ fuel ih => mvcgen [comment, ih] with simp_all

@[spec]
theorem setEscape_spec (c : Char) : ⦃Flag flag⦄ setEscape c ⦃⇓? _ => Flag flag⦄ := by
  mvcgen [setEscape, codeEscape, hexEscape, octalEscape, namedEscape, remaining] with simp_all

@[spec]
theorem setMember_spec (token : Token) : ⦃Flag flag⦄ setMember token ⦃⇓? _ => Flag flag⦄ := by
  mvcgen [setMember]

@[spec]
theorem setRange_spec (first last : Token) (low high : SetItem) :
    ⦃Flag flag⦄ setRange first last low high ⦃⇓? _ => Flag flag⦄ := by
  mvcgen [setRange]

@[spec]
theorem setItems_spec (start fuel : Nat) (items : List SetItem) :
    ⦃Flag flag⦄ setItems start fuel items ⦃⇓? _ => Flag flag⦄ := by
  induction fuel generalizing items with
  | zero => mvcgen [setItems]
  | succ fuel ih => mvcgen [setItems, ih] with simp_all

@[spec]
theorem charSet_spec (start : Nat) : ⦃Flag flag⦄ charSet start ⦃⇓? _ => Flag flag⦄ := by
  mvcgen [charSet, remaining] with simp_all

@[spec]
theorem braceBounds?_spec : ⦃Flag flag⦄ braceBounds?
    ⦃⇓? read => FlagWith flag (∀ bounds, read = some bounds → bounds.Ordered)⦄ := by
  mvcgen [braceBounds?, boundValue] with grind -ring -linarith [Bounds.Ordered]

@[spec]
theorem checkLookBehind_spec (index : Nat) : ⦃Flag flag⦄ checkLookBehind index ⦃⇓? _ => Flag flag⦄ := by
  mvcgen [checkLookBehind]

@[spec]
theorem conditionIndex_spec (name : List Char) : ⦃Flag flag⦄ conditionIndex name ⦃⇓? _ => Flag flag⦄ := by
  mvcgen [conditionIndex] with grind -ring -linarith

@[spec]
theorem flagLetter_spec (expected : String) (token : Token) :
    ⦃Flag flag⦄ flagLetter expected token ⦃⇓? _ => Flag flag⦄ := by
  mvcgen [flagLetter]

@[spec]
theorem turnOn_spec (letter : Char) : ⦃Flag flag⦄ turnOn letter ⦃⇓? _ => Flag flag⦄ := by
  mvcgen [turnOn]

@[spec]
theorem turnOff_spec (letter : Char) : ⦃Flag flag⦄ turnOff letter ⦃⇓? _ => Flag flag⦄ := by
  mvcgen [turnOff]

@[spec]
theorem moreFlagsOn_spec (fuel : Nat) (letters : List Char) :
    ⦃Flag flag⦄ moreFlagsOn fuel letters ⦃⇓? _ => Flag flag⦄ := by
  induction fuel generalizing letters with
  | zero => mvcgen [moreFlagsOn]
  | succ fuel ih => mvcgen [moreFlagsOn, ih] with simp_all

@[spec]
theorem flagsOn_spec (c : Char) : ⦃Flag flag⦄ flagsOn c ⦃⇓? _ => Flag flag⦄ := by
  mvcgen [flagsOn, remaining] with simp_all

@[spec]
theorem flagsOff_spec (fuel : Nat) (letters : List Char) :
    ⦃Flag flag⦄ flagsOff fuel letters ⦃⇓? _ => Flag flag⦄ := by
  induction fuel generalizing letters with
  | zero => mvcgen [flagsOff]
  | succ fuel ih => mvcgen [flagsOff, ih] with simp_all

@[spec]
theorem passLine_spec (fuel : Nat) : ⦃Flag flag⦄ passLine fuel ⦃⇓? _ => Flag flag⦄ := by
  induction fuel with
  | zero => mvcgen [passLine]
  | succ fuel ih => mvcgen [passLine, ih] with simp_all

@[spec]
theorem checkReference_spec (index offset : Nat) : ⦃Flag flag⦄ checkReference index offset
    ⦃⇓? pattern => FlagWith flag pattern.WellFormed⦄ := by
  mvcgen [checkReference] with simp_all [WellFormed]

@[spec]
theorem digitEscape_spec (first : Char) : ⦃Flag flag⦄ digitEscape first
    ⦃⇓? pattern => FlagWith flag pattern.WellFormed⦄ := by
  mvcgen [digitEscape, octalEscape] with simp_all [WellFormed]

@[spec]
theorem escapeItem_spec (c : Char) : ⦃Flag flag⦄ escapeItem c
    ⦃⇓? item => FlagWith flag item.pattern.WellFormed⦄ := by
  mvcgen [escapeItem, codeEscape, hexEscape, namedEscape, remaining] with simp_all [WellFormed, Item.plain]

@[spec]
theorem namedReference_spec : ⦃Flag flag⦄ namedReference
    ⦃⇓? item => FlagWith flag item.pattern.WellFormed⦄ := by
  mvcgen [namedReference, groupName, remaining] with simp_all [Item.plain]

@[spec]
theorem repeatLatest_spec (position : Nat) (bounds : Bounds) (items : List Item) :
    ⦃Flag flag⦄ repeatLatest position bounds items
    ⦃⇓? read => FlagWith flag (bounds.Ordered → (∀ item ∈ items, item.pattern.WellFormed) →
      ∀ item ∈ read, item.pattern.WellFormed)⦄ := by
  mvcgen [repeatLatest] with simp_all [wellFormed_repeated, wellFormed_possessive]

end Quiet

/-! A look-behind may raise the flag, and so may whatever reads a pattern in parentheses. -/

section Nested

/-- What is read inside parentheses is well formed, unless the flag is raised. -/
structure Nested.Sound (inner : Nested) : Prop where
  expression (flag : Bool) : ⦃Flag flag⦄ inner.expression ⦃⇓? pattern => Unflagged flag pattern.WellFormed⦄
  branch (flag : Bool) : ⦃Flag flag⦄ inner.branch ⦃⇓? pattern => Unflagged flag pattern.WellFormed⦄

variable {inner : Nested} (sound : inner.Sound) (flag : Bool)

include sound

@[spec]
theorem captureGroup_spec (start : Nat) (name : Option (List Char)) : ⦃Flag flag⦄ captureGroup inner start name
    ⦃⇓? item => Unflagged flag item.pattern.WellFormed⦄ := by
  have reads := sound.expression
  mvcgen [captureGroup, reads] with grind -ring -linarith [WellFormed, Item.plain]

@[spec]
theorem lookAhead_spec (start : Nat) (negated : Bool) : ⦃Flag flag⦄ lookAhead inner start negated
    ⦃⇓? item => Unflagged flag item.pattern.WellFormed⦄ := by
  have reads := sound.expression
  mvcgen [lookAhead, reads] with grind -ring -linarith [WellFormed, Item.plain]

@[spec]
theorem lookBehind_spec (start : Nat) (negated : Bool) : ⦃Flag flag⦄ lookBehind inner start negated
    ⦃⇓? item => Unflagged flag item.pattern.WellFormed⦄ := by
  have reads := sound.expression
  mvcgen [lookBehind, reads] with grind -ring -linarith [WellFormed, Item.plain, Width.exactly_min]

@[spec]
theorem conditional_spec (start : Nat) : ⦃Flag flag⦄ conditional inner start
    ⦃⇓? item => Unflagged flag item.pattern.WellFormed⦄ := by
  have reads := sound.branch
  mvcgen [conditional, reads, peek, remaining] with grind -ring -linarith [WellFormed, Item.plain]

@[spec]
theorem flagGroup_spec (start : Nat) (atStart : Bool) (c : Char) : ⦃Flag flag⦄ flagGroup inner start atStart c
    ⦃⇓? read => Unflagged flag (∀ item, read = some item → item.pattern.WellFormed)⦄ := by
  have reads := sound.expression
  mvcgen [flagGroup, reads, remaining] with grind -ring -linarith [wellFormed_once, Item.plain]

@[spec]
theorem parenthesis_spec (start : Nat) (atStart : Bool) : ⦃Flag flag⦄ parenthesis inner start atStart
    ⦃⇓? read => Unflagged flag (∀ item, read = some item → item.pattern.WellFormed)⦄ := by
  have reads := sound.expression
  mvcgen [parenthesis, reads, takeSome, refuseExtension, groupName, remaining] with
    grind -ring -linarith [Item.plain, WellFormed]

@[spec]
theorem charItem_spec (atStart : Bool) (start : Nat) (c : Char) (items : List Item) :
    ⦃Flag flag⦄ charItem inner atStart start c items
    ⦃⇓? read => Unflagged flag ((∀ item ∈ items, item.pattern.WellFormed) →
      ∀ item ∈ read, item.pattern.WellFormed)⦄ := by
  mvcgen [charItem] with grind -ring -linarith [Item.plain, Item.single, WellFormed, Bounds.Ordered]

@[spec]
theorem branch_spec (first : Bool) (fuel : Nat) (items : List Item) : ⦃Flag flag⦄ branch inner first fuel items
    ⦃⇓? pattern => Unflagged flag ((∀ item ∈ items, item.pattern.WellFormed) → pattern.WellFormed)⦄ := by
  have whole (items : List Item) (formed : ∀ item ∈ items, item.pattern.WellFormed) :
      (sequence (items.reverse.map Item.pattern)).WellFormed := by
    apply wellFormed_sequence
    simpa using formed
  induction fuel generalizing flag items with
  | zero =>
      mvcgen [branch]
      grind -ring -linarith
  | succ fuel ih => mvcgen [branch, peek, remaining, ih] with grind -ring -linarith

@[spec]
theorem branchList_spec (outermost : Bool) (fuel : Nat) (branches : List Pattern) :
    ⦃Flag flag⦄ branchList inner outermost fuel branches
    ⦃⇓? pattern => Unflagged flag ((∀ branch ∈ branches, branch.WellFormed) → pattern.WellFormed)⦄ := by
  induction fuel generalizing flag branches with
  | zero =>
      mvcgen [branchList]
      grind -ring -linarith [wellFormed_alternatives]
  | succ fuel ih =>
      mvcgen [branchList, remaining, ih] with grind -ring -linarith [wellFormed_alternatives]

end Nested

theorem nested_sound (depth : Nat) : (nested depth).Sound := by
  induction depth with
  | zero =>
      constructor <;> intro flag
      · mvcgen [nested]
        simp_all [WellFormed]
      · mvcgen [nested]
        simp_all [WellFormed]
  | succ depth ih =>
      constructor <;> intro flag
      · mvcgen [nested, remaining] with grind -ring -linarith
      · mvcgen [nested, remaining] with grind -ring -linarith

theorem whole_spec : ⦃⌜True⌝⦄ whole ⦃⇓? pattern => ⌜pattern.WellFormed⌝⦄ := by
  -- The general rule for throwing leaves a universe open; `throw_spec` is about this monad.
  mvcgen [whole, checkConditions, remaining, -Spec.throw_MonadExcept] with grind -ring -linarith [nested_sound]

/-- What a triple says of a reading that succeeds. -/
theorem of_triple {parser : Parser α} {P : Knowledge} {Q : α → Knowledge}
    (spec : ⦃P⦄ parser ⦃⇓? read => Q read⦄) {reading later : Reading} {read : α} (holds : (P reading).down)
    (ran : parser.run reading = .ok (read, later)) : (Q read later).down := by
  have after := spec reading holds
  simp only [WP.wp, PredTrans.apply_pushArg, ran] at after
  exact after

end Parser

theorem parse_wellFormed {source : List Char} {pattern : Pattern} (read : parse source = .ok pattern) :
    pattern.WellFormed := by
  unfold parse at read
  dsimp only at read
  split at read
  · cases read
  · cases ran : Parser.whole.run (.start (tokenize source)) with
    | error fault =>
        rw [ran] at read
        cases read
    | ok result =>
        rw [ran] at read
        cases read
        exact Parser.of_triple Parser.whole_spec trivial ran

end ContractScan.Pattern
