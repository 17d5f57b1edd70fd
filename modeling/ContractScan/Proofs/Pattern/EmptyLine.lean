import ContractScan.Pattern.Search
import Mathlib.Data.List.Basic

/-! # Patterns on the empty line

On the empty line there is one place only, and nothing to take there, so that a match is no more than a choice: which
branches are taken, and which groups are set on the way. `Pattern.emptyMatches` lists these choices from the pattern
alone, in the order in which they are tried. References to groups are included: on the empty line a reference holds as
soon as its group is set.
-/

namespace ContractScan.Pattern

/-- The place in the empty line after some groups have matched there, the latest first. -/
def State.onEmpty (groups : List Nat) : State :=
  ⟨.ofLine [], groups.map fun index => (index, [])⟩

/-- So many matches in a row, each from the groups that the one before has set. -/
def inRow (ways : List Nat → List (List Nat)) : Nat → List Nat → List (List Nat)
  | 0, groups => [groups]
  | n + 1, groups => (ways groups).flatMap (inRow ways n)

/-- One more match or none; none at the limit. -/
def onceMore (ways : List Nat → List (List Nat)) (limit : Option Nat) (preference : Preference) (groups : List Nat) :
    List (List Nat) :=
  if limit = some 0 then [groups]
  else match preference with
    | .most => ways groups ++ [groups]
    | .fewest => groups :: ways groups

/-- What looking finds first; before the place there is nothing to look at. -/
def Direction.seen (ways : List (List Nat)) : Direction → Option (List Nat)
  | .ahead | .behind 0 => ways.head?
  | .behind (_ + 1) => none

/-- The groups that are set after looking, if what was looked for has been found or should not have been. -/
def afterLooking (groups : List Nat) : (seen : Option (List Nat)) → (negated : Bool) → List (List Nat)
  | some later, false => [later]
  | none, true => [groups]
  | _, _ => []

/-- The ways to match the empty line when some groups are set, each with the groups that are set after it. -/
def emptyMatches : Pattern → (groups : List Nat) → List (List Nat)
  | .empty, groups => [groups]
  | .char _, _ => []
  | .span _ bounds _, groups => if bounds.min = 0 then [groups] else []
  | .seq first second, groups => (first.emptyMatches groups).flatMap fun later => second.emptyMatches later
  | .alt first second, groups => first.emptyMatches groups ++ second.emptyMatches groups
  | .iterate body bounds preference, groups =>
    (inRow (fun later => body.emptyMatches later) bounds.min groups).flatMap
      (onceMore (fun later => body.emptyMatches later) (bounds.max.map (· - bounds.min)) preference)
  | .group index body, groups => (body.emptyMatches groups).map (index :: ·)
  | .again index, groups => if index ∈ groups then [groups] else []
  | .anchor condition, groups => if condition.holds (.ofLine []) then [groups] else []
  | .look direction negated body, groups => afterLooking groups (direction.seen (body.emptyMatches groups)) negated
  | .atomic body, groups => (body.emptyMatches groups).head?.toList
  | .conditional index yes no, groups => if index ∈ groups then yes.emptyMatches groups else no.emptyMatches groups

theorem findSome?_flatMap {α β γ : Type} (f : β → Option γ) (g : α → List β) (items : List α) :
    (items.flatMap g).findSome? f = items.findSome? fun item => (g item).findSome? f := by
  induction items with
  | nil => rfl
  | cons item items ih =>
      rw [List.flatMap_cons, List.findSome?_append, ih, List.findSome?_cons]
      cases (g item).findSome? f <;> rfl

/-- Trying on the empty line hands the ways to match to what follows, one after the other. -/
def TriesOnEmpty (attempt : State → Follow → Option State) (ways : List Nat → List (List Nat)) : Prop :=
  ∀ groups follow, attempt (.onEmpty groups) follow = (ways groups).findSome? fun later => follow (.onEmpty later)

section

variable {attempt : State → Follow → Option State} {ways : List Nat → List (List Nat)}
  (tries : TriesOnEmpty attempt ways)

include tries

theorem TriesOnEmpty.times (n : Nat) : TriesOnEmpty (times attempt n) (inRow ways n) := by
  induction n with
  | zero =>
      intro groups follow
      simp [Pattern.times, inRow]
  | succ n ih =>
      intro groups follow
      rw [Pattern.times, tries, inRow, findSome?_flatMap]
      simp only [ih _ follow]

/-- An iteration on the empty line takes nothing, so no other one comes after it. -/
theorem TriesOnEmpty.further (limit : Option Nat) (preference : Preference) : TriesOnEmpty
    (fun state follow => further attempt preference (state.cursor.left + 1) limit state follow)
    (onceMore ways limit preference) := by
  intro groups follow
  have left (later : List Nat) : (State.onEmpty later).cursor.left = 0 := rfl
  have more := tries groups fun later =>
    if later.cursor.left = 0 then follow later
    else Pattern.further attempt preference 0 (limit.map (· - 1)) later follow
  simp only [left, if_true] at more
  beta_reduce
  rw [left, Pattern.further]
  unfold onceMore
  split
  · simp
  · cases preference with
    | most => simp [left, more, List.findSome?_append]
    | fewest =>
        simp only [left, more, List.findSome?_cons]
        cases follow (.onEmpty groups) <;> rfl

theorem TriesOnEmpty.first (groups : List Nat) :
    attempt (.onEmpty groups) some = (ways groups).head?.map State.onEmpty := by
  rw [tries]
  cases ways groups <;> rfl

end

theorem look_onEmpty (groups : List Nat) (seen : Option (List Nat)) (negated : Bool) (follow : Follow) :
    (match seen.map State.onEmpty, negated with
      | some later, false => follow { later with cursor := (State.onEmpty groups).cursor }
      | none, true => follow (.onEmpty groups)
      | _, _ => none) =
      (afterLooking groups seen negated).findSome? fun later => follow (.onEmpty later) := by
  cases seen <;> cases negated <;> simp [afterLooking, State.onEmpty]

theorem step?_onEmpty (test : CharTest) (groups : List Nat) : (State.onEmpty groups).step? test = none := rfl

theorem spans_onEmpty (test : CharTest) (bounds : Bounds) (preference : Preference) (groups : List Nat) :
    (State.onEmpty groups).spans test bounds preference = if bounds.min = 0 then [.onEmpty groups] else [] := by
  have reached (limit : Nat) : (State.onEmpty groups).reach test limit [] = [.onEmpty groups] := by
    cases limit <;> rfl
  unfold State.spans
  cases bounds.min with
  | zero => cases preference <;> simp [State.steps?, reached]
  | succ n => simp [State.steps?, step?_onEmpty]

theorem lookup_onEmpty (groups : List Nat) (index : Nat) :
    (State.onEmpty groups).captures.lookup index = if index ∈ groups then some [] else none := by
  induction groups with
  | nil => rfl
  | cons first groups ih =>
      by_cases same : index = first
      · simp [State.onEmpty, same]
      · have other : (index == first) = false := beq_false_of_ne same
        simpa [State.onEmpty, List.lookup_cons, same, other] using ih

/-- Matching on the empty line tries the ways that are listed, in their order. -/
theorem run_onEmpty (p : Pattern) : TriesOnEmpty p.run p.emptyMatches := by
  induction p with
  | empty =>
      intro groups follow
      simp [run, emptyMatches]
  | char test =>
      intro groups follow
      simp [run, emptyMatches, step?_onEmpty]
  | span test bounds preference =>
      intro groups follow
      rw [run, spans_onEmpty, emptyMatches]
      split <;> simp
  | seq first second ih ih' =>
      intro groups follow
      rw [run, ih, emptyMatches, findSome?_flatMap]
      simp only [ih' _ follow]
  | alt first second ih ih' =>
      intro groups follow
      rw [run, ih, ih', emptyMatches, List.findSome?_append, Option.orElse_eq_or]
  | iterate body bounds preference ih =>
      intro groups follow
      rw [run, emptyMatches, ih.times bounds.min, findSome?_flatMap]
      simp only [ih.further _ preference _ follow]
  | group index body ih =>
      intro groups follow
      rw [run, ih, emptyMatches, List.findSome?_map]
      rfl
  | again index =>
      intro groups follow
      rw [run, lookup_onEmpty, emptyMatches]
      by_cases isSet : index ∈ groups <;> simp [isSet, State.take?]
  | anchor condition =>
      intro groups follow
      have place : (State.onEmpty groups).cursor = .ofLine [] := rfl
      rw [run, place, emptyMatches]
      cases condition.holds (.ofLine []) <;> simp
  | look direction negated body ih =>
      intro groups follow
      -- What is looked for is tried with nothing to follow, so only the first way to match it counts.
      have found := ih.first groups
      refine Eq.trans ?_ (look_onEmpty groups (direction.seen (body.emptyMatches groups)) negated follow)
      match direction with
      | .ahead | .behind 0 =>
          rw [Direction.seen, ← found]
          rfl
      | .behind (_ + 1) => rfl
  | atomic body ih =>
      intro groups follow
      rw [run, ih.first, emptyMatches]
      cases body.emptyMatches groups <;> simp
  | conditional index yes no ih ih' =>
      intro groups follow
      rw [run, lookup_onEmpty, emptyMatches]
      by_cases isSet : index ∈ groups
      · simpa [isSet] using ih groups follow
      · simpa [isSet] using ih' groups follow

/-- The empty line is searched at its one place. -/
theorem search_nil_iff (p : Pattern) : p.search [] = true ↔ p.emptyMatches [] ≠ [] := by
  have first : p.run ⟨.ofLine [], []⟩ some = (p.emptyMatches []).head?.map State.onEmpty := p.run_onEmpty.first []
  rw [search, List.length_nil, matchesFrom, matchesAt, first]
  cases p.emptyMatches [] <;> simp

/-- A reference holds after its group, even if the group took nothing, and not before. -/
example : (seq (group 1 (span (.single 0x61 false) ⟨0, some 1⟩ .most)) (again 1)).emptyMatches [] = [[1]] ∧
    (again 1).emptyMatches [] = [] := by
  decide

end ContractScan.Pattern
