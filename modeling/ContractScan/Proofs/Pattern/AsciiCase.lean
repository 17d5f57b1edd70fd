import ContractScan.Pattern.Search
import ContractScan.Proofs.Text.AsciiCase

/-! # Searching does not see the case of ASCII letters

Two runs of a pattern are compared, one on a line and one on the same line with small ASCII letters. They go through
corresponding places with corresponding captures: every try on the second line gives what the try on the first line
gives, with small letters in it. This holds of every pattern, references to groups, look-arounds and atomic groups
included, because each way to look at a character looks at its small letter or at a class that holds both cases.
-/

namespace ContractScan.Pattern

open Text

theorem CharTest.accepts_toLower (test : CharTest) (c : Char) : test.accepts c.toLower = test.accepts c := by
  rw [accepts, accepts, Case.lowerCode_toLower]

namespace Cursor

def toLower (cursor : Cursor) : Cursor :=
  ⟨cursor.before.map Char.toLower, cursor.rest.map Char.toLower, cursor.left, by simp [cursor.left_eq]⟩

theorem next?_toLower (cursor : Cursor) :
    cursor.toLower.next? = cursor.next?.map (Prod.map Char.toLower toLower) := by
  obtain ⟨before, rest, left, left_eq⟩ := cursor
  cases rest <;> rfl

theorem previous?_toLower (cursor : Cursor) : cursor.toLower.previous? = cursor.previous?.map toLower := by
  obtain ⟨before, rest, left, left_eq⟩ := cursor
  cases before <;> rfl

theorem back?_toLower (width : Nat) (cursor : Cursor) :
    cursor.toLower.back? width = (cursor.back? width).map toLower := by
  induction width generalizing cursor with
  | zero => rfl
  | succ width ih =>
      rw [back?, back?, previous?_toLower]
      cases cursor.previous? with
      | none => rfl
      | some earlier => exact ih earlier

theorem textSince_toLower (earlier cursor : Cursor) :
    earlier.toLower.textSince cursor.toLower = (earlier.textSince cursor).map Char.toLower :=
  List.map_take.symm

end Cursor

theorem startsWithWord_toLower (text : List Char) :
    startsWithWord (text.map Char.toLower) = startsWithWord text := by
  cases text with
  | nil => rfl
  | cons c rest => exact isWord_toLower c

theorem Anchor.holds_toLower (anchor : Anchor) (cursor : Cursor) :
    anchor.holds cursor.toLower = anchor.holds cursor := by
  have same (c : Char) : c.toLower = '\n' ↔ c = '\n' := toLower_eq_iff (by decide)
  have feed (text : List Char) : (text.map Char.toLower == ['\n']) = (text == ['\n']) := by
    rw [Bool.eq_iff_iff, beq_iff_eq, beq_iff_eq]
    simp [List.map_eq_cons_iff, same]
  have head (text : List Char) : ((text.map Char.toLower).head? == some '\n') = (text.head? == some '\n') := by
    rw [Bool.eq_iff_iff, beq_iff_eq, beq_iff_eq]
    simp [same]
  cases anchor <;>
    simp only [holds, Cursor.toLower, startsWithWord_toLower, List.isEmpty_map, feed, head]

namespace State

def toLower (state : State) : State :=
  ⟨state.cursor.toLower, state.captures.map (Prod.map id (List.map Char.toLower))⟩

theorem lookup_captures_toLower (captures : List (Nat × List Char)) (index : Nat) :
    (captures.map (Prod.map id (List.map Char.toLower))).lookup index =
      (captures.lookup index).map (List.map Char.toLower) := by
  induction captures with
  | nil => rfl
  | cons capture others ih =>
      obtain ⟨number, text⟩ := capture
      simp only [List.map_cons, Prod.map_apply, id_eq, List.lookup_cons, ih]
      cases index == number <;> rfl

theorem step?_toLower (test : CharTest) (state : State) :
    state.toLower.step? test = (state.step? test).map toLower := by
  have next : state.toLower.cursor.next? = _ := state.cursor.next?_toLower
  rw [step?, step?, next]
  cases state.cursor.next? with
  | none => rfl
  | some entry =>
      simp only [Option.map_some, Prod.map_fst, Prod.map_snd, test.accepts_toLower]
      split <;> rfl

theorem steps?_toLower (test : CharTest) (n : Nat) (state : State) :
    state.toLower.steps? test n = (state.steps? test n).map toLower := by
  induction n generalizing state with
  | zero => rfl
  | succ n ih =>
      rw [steps?, steps?, step?_toLower]
      cases state.step? test with
      | none => rfl
      | some later => exact ih later

theorem reach_toLower (test : CharTest) (limit : Nat) (state : State) (nearer : List State) :
    state.toLower.reach test limit (nearer.map toLower) = (state.reach test limit nearer).map toLower := by
  induction limit generalizing state nearer with
  | zero => rfl
  | succ limit ih =>
      rw [reach, reach, step?_toLower]
      cases state.step? test with
      | none => rfl
      | some further => exact ih further (state :: nearer)

theorem spans_toLower (test : CharTest) (bounds : Bounds) (preference : Preference) (state : State) :
    state.toLower.spans test bounds preference = (state.spans test bounds preference).map toLower := by
  rw [spans, spans, steps?_toLower]
  cases state.steps? test bounds.min with
  | none => rfl
  | some first =>
      have reached (limit : Nat) := reach_toLower test limit first []
      cases preference with
      | most => exact reached _
      | fewest => exact (congrArg List.reverse (reached _)).trans List.map_reverse.symm

theorem take?_toLower (text : List Char) (state : State) :
    state.toLower.take? (text.map Char.toLower) = (state.take? text).map toLower := by
  induction text generalizing state with
  | nil => rfl
  | cons expected others ih =>
      have next : state.toLower.cursor.next? = _ := state.cursor.next?_toLower
      rw [List.map_cons, take?, take?, next]
      cases state.cursor.next? with
      | none => rfl
      | some entry =>
          simp only [Option.map_some, Prod.map_fst, Prod.map_snd, Case.lowerCode_toLower]
          split
          · exact ih { state with cursor := entry.2 }
          · rfl

theorem capture_toLower (index : Nat) (start : Cursor) (state : State) :
    state.toLower.capture index start.toLower = (state.capture index start).toLower := by
  have text : start.toLower.textSince state.toLower.cursor = _ := start.textSince_toLower state.cursor
  rw [capture, text]
  rfl

end State

/-- The second thing to follow does with small letters what the first one does. -/
def Mirrors (follow small : Follow) : Prop :=
  ∀ later, small later.toLower = (follow later).map State.toLower

/-- Trying comes to the same on a line and on the line with small letters. -/
def CaseBlind (attempt : State → Follow → Option State) : Prop :=
  ∀ ⦃follow small⦄, Mirrors follow small → ∀ state,
    attempt state.toLower small = (attempt state follow).map State.toLower

theorem map_orElse {α β : Type} (f : α → β) (a : Option α) (b : Unit → Option α) :
    (a.orElse b).map f = (a.map f).orElse fun _ => (b ()).map f := by
  cases a <;> rfl

variable {attempt : State → Follow → Option State}

theorem CaseBlind.mirrors (h : CaseBlind attempt) {follow small : Follow} (mirrors : Mirrors follow small) :
    Mirrors (fun later => attempt later follow) (fun later => attempt later small) :=
  h mirrors

theorem times_caseBlind (h : CaseBlind attempt) (n : Nat) : CaseBlind (times attempt n) := by
  induction n with
  | zero => exact fun _ _ mirrors => mirrors
  | succ n ih => exact fun _ _ mirrors => h (ih.mirrors mirrors)

theorem further_caseBlind (h : CaseBlind attempt) (preference : Preference) (fuel : Nat) (limit : Option Nat) :
    CaseBlind (further attempt preference fuel limit) := by
  induction fuel generalizing limit with
  | zero => exact fun _ _ mirrors => mirrors
  | succ fuel ih =>
      intro follow small mirrors state
      rw [further, further]
      split
      · exact mirrors state
      · -- After one more iteration, which stops the repetition if it has taken nothing on either line.
        have next : Mirrors
            (fun later => if later.cursor.left = state.cursor.left then follow later
              else further attempt preference fuel (limit.map (· - 1)) later follow)
            (fun later => if later.cursor.left = state.toLower.cursor.left then small later
              else further attempt preference fuel (limit.map (· - 1)) later small) := by
          intro later
          have left : (later.toLower.cursor.left = state.toLower.cursor.left) =
            (later.cursor.left = state.cursor.left) := rfl
          simp only [left]
          split
          · exact mirrors later
          · exact ih _ mirrors later
        have more := h next state
        cases preference with
        | most => simp only [more, mirrors state, map_orElse]
        | fewest => simp only [more, mirrors state, map_orElse]

/-- A look-around goes on from where it stands if it has seen, or not seen, the same on both lines. -/
theorem look_toLower {found found' : Option State} (same : found' = found.map State.toLower) (negated : Bool)
    {follow small : Follow} (mirrors : Mirrors follow small) (state : State) :
    (match found', negated with
      | some seen, false => small { seen with cursor := state.toLower.cursor }
      | none, true => small state.toLower
      | _, _ => none) =
    (match found, negated with
      | some seen, false => follow { seen with cursor := state.cursor }
      | none, true => follow state
      | _, _ => none).map State.toLower := by
  subst same
  cases found with
  | none =>
      cases negated with
      | false => rfl
      | true => exact mirrors state
  | some seen =>
      cases negated with
      | false => exact mirrors { seen with cursor := state.cursor }
      | true => rfl

theorem run_caseBlind (pattern : Pattern) : CaseBlind pattern.run := by
  induction pattern with
  | empty => exact fun _ _ mirrors => mirrors
  | char test =>
      intro follow small mirrors state
      rw [run, run, State.step?_toLower]
      cases state.step? test with
      | none => rfl
      | some later => exact mirrors later
  | span test bounds preference =>
      intro follow small mirrors state
      rw [run, run, State.spans_toLower, List.findSome?_map, List.map_findSome?]
      exact congrArg (List.findSome? · _) (funext mirrors)
  | seq first second ih ih' => exact fun _ _ mirrors => ih (ih'.mirrors mirrors)
  | alt first second ih ih' =>
      intro follow small mirrors state
      rw [run, run, map_orElse, ih mirrors, ih' mirrors]
  | iterate body bounds preference ih =>
      intro follow small mirrors state
      refine times_caseBlind ih bounds.min (fun later => ?_) state
      exact further_caseBlind ih preference _ _ mirrors later
  | group index body ih =>
      intro follow small mirrors state
      refine ih (fun later => ?_) state
      have captured : later.toLower.capture index state.toLower.cursor = _ :=
        State.capture_toLower index state.cursor later
      rw [captured]
      exact mirrors _
  | again index =>
      intro follow small mirrors state
      have recalled : state.toLower.captures.lookup index = _ :=
        State.lookup_captures_toLower state.captures index
      rw [run, run, recalled]
      cases state.captures.lookup index with
      | none => rfl
      | some text =>
          simp only [Option.map_some, State.take?_toLower]
          cases state.take? text with
          | none => rfl
          | some later => exact mirrors later
  | anchor condition =>
      intro follow small mirrors state
      have holds : condition.holds state.toLower.cursor = _ := condition.holds_toLower state.cursor
      rw [run, run, holds]
      split
      · exact mirrors state
      · rfl
  | look direction negated body ih =>
      intro follow small mirrors state
      have anywhere : Mirrors some some := fun _ => rfl
      have seen (origin : Cursor) := ih anywhere ⟨origin, state.captures⟩
      cases direction with
      | ahead => exact look_toLower (seen state.cursor) negated mirrors state
      | behind width =>
          refine look_toLower ?_ negated mirrors state
          have origin : state.toLower.cursor.back? width = _ := state.cursor.back?_toLower width
          dsimp only
          rw [origin]
          cases state.cursor.back? width with
          | none => rfl
          | some origin => exact seen origin
  | atomic body ih =>
      intro follow small mirrors state
      have first : body.run state.toLower some = (body.run state some).map State.toLower := ih (fun _ => rfl) state
      rw [run, run, first]
      cases body.run state some with
      | none => rfl
      | some later => exact mirrors later
  | conditional index yes no ih ih' =>
      intro follow small mirrors state
      have recalled : state.toLower.captures.lookup index = _ :=
        State.lookup_captures_toLower state.captures index
      rw [run, run, recalled, Option.isSome_map]
      split
      · exact ih mirrors state
      · exact ih' mirrors state

theorem matchesAt_toLower (pattern : Pattern) (cursor : Cursor) :
    pattern.matchesAt cursor.toLower = pattern.matchesAt cursor := by
  have same : pattern.run ⟨cursor.toLower, []⟩ some = (pattern.run ⟨cursor, []⟩ some).map State.toLower :=
    run_caseBlind pattern (fun _ => rfl) ⟨cursor, []⟩
  rw [matchesAt, matchesAt, same, Option.isSome_map]

theorem matchesFrom_toLower (pattern : Pattern) (fuel : Nat) (cursor : Cursor) :
    pattern.matchesFrom fuel cursor.toLower = pattern.matchesFrom fuel cursor := by
  induction fuel generalizing cursor with
  | zero => exact matchesAt_toLower pattern cursor
  | succ fuel ih =>
      rw [matchesFrom, matchesFrom, matchesAt_toLower, Cursor.next?_toLower]
      cases cursor.next? with
      | none => rfl
      | some entry => exact congrArg _ (ih entry.2)

theorem search_toLower (pattern : Pattern) (line : List Char) :
    pattern.search (line.map Char.toLower) = pattern.search line := by
  have start : Cursor.ofLine (line.map Char.toLower) = (Cursor.ofLine line).toLower := by
    simp [Cursor.ofLine, Cursor.toLower]
  rw [search, search, start, List.length_map, matchesFrom_toLower]

end ContractScan.Pattern
