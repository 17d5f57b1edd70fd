import ContractScan.Pattern.CharTest
import ContractScan.Pattern.Cursor

/-!
# Searching a line

`Pattern.run` matches a pattern at a place and hands every way to match it, in order of preference, to what
has to follow, until that succeeds. `Pattern.search` tries every place of a line from left to right.

Repetition ends because an iteration that takes no character is not followed by another one, so the number
of iterations is bounded by the characters that are left.
-/

namespace ContractScan.Pattern

open Text Text.Case

/-- A place in the line, and what the groups have matched on the way to it, latest first. -/
structure State where
  cursor : Cursor
  captures : List (Nat × List Char)
  deriving DecidableEq

namespace State

/-- Takes one character that passes the test. -/
@[inline]
def step? (test : CharTest) (state : State) : Option State :=
  match state.cursor.next? with
  | some (c, cursor) => if test.accepts c then some { state with cursor := cursor } else none
  | none => none

/-- Takes exactly this many characters that pass the test. -/
def steps? (test : CharTest) : Nat → State → Option State
  | 0, state => some state
  | n + 1, state => (state.step? test).bind (steps? test n)

/-- The states after no, one, two, … characters that pass the test, farthest first, before `nearer`. At
most `limit` characters are taken. -/
def reach (test : CharTest) : Nat → State → List State → List State
  | 0, state, nearer => state :: nearer
  | limit + 1, state, nearer =>
    match state.step? test with
    | some further => reach test limit further (state :: nearer)
    | none => state :: nearer

/-- The states after a run of characters that pass the test, in order of preference. -/
def spans (test : CharTest) (bounds : Bounds) (preference : Preference) (state : State) : List State :=
  match state.steps? test bounds.min with
  | none => []
  | some first =>
    let limit := match bounds.max with
      | none => first.cursor.left
      | some max => max - bounds.min
    let farthestFirst := first.reach test limit []
    match preference with
    | .most => farthestFirst
    | .fewest => farthestFirst.reverse

/-- Takes the given characters, compared by their small letters. -/
def take? : List Char → State → Option State
  | [], state => some state
  | expected :: others, state =>
    match state.cursor.next? with
    | some (c, cursor) =>
      if lowerCode c.toNat = lowerCode expected.toNat then
        take? others { state with cursor := cursor }
      else none
    | none => none

/-- Remembers that a group matched from an earlier place to this one. -/
def capture (index : Nat) (start : Cursor) (state : State) : State :=
  { state with captures := (index, start.textSince state.cursor) :: state.captures }

end State

/-- The character nearest to the place on one side is a word character. -/
def startsWithWord : List Char → Bool
  | [] => false
  | c :: _ => isWord c.toNat

/-- The condition holds at the place. No place of an empty line is a boundary or an interior one. -/
def Anchor.holds (anchor : Anchor) (cursor : Cursor) : Bool :=
  match anchor with
  | .start => cursor.before.isEmpty
  | .lineStart => cursor.before.isEmpty || cursor.before.head? == some '\n'
  | .lineEnd => cursor.rest.isEmpty || cursor.rest == ['\n']
  | .anyLineEnd => cursor.rest.isEmpty || cursor.rest.head? == some '\n'
  | .textEnd => cursor.rest.isEmpty
  | .boundary => startsWithWord cursor.before != startsWithWord cursor.rest
  | .interior =>
    !(cursor.before.isEmpty && cursor.rest.isEmpty) &&
      startsWithWord cursor.before == startsWithWord cursor.rest

/-- What has to follow a match: a state that completes the search, if there is one. -/
abbrev Follow := State → Option State

/-- The body exactly so many times, then what follows. -/
def times (body : State → Follow → Option State) : Nat → State → Follow → Option State
  | 0, state, follow => follow state
  | n + 1, state, follow => body state fun later => times body n later follow

/-- The body as often as possible or as seldom as possible, then what follows. At most `limit` iterations
are made, and none after one that took no character. `fuel` is more than the characters that are left. -/
def further (body : State → Follow → Option State) (preference : Preference) :
    (fuel : Nat) → (limit : Option Nat) → State → Follow → Option State
  | 0, _, state, follow => follow state
  | fuel + 1, limit, state, follow =>
    if limit = some 0 then follow state
    else
      let more := fun (_ : Unit) => body state fun later =>
        if later.cursor.left = state.cursor.left then follow later
        else further body preference fuel (limit.map (· - 1)) later follow
      match preference with
      | .most => (more ()).orElse fun _ => follow state
      | .fewest => (follow state).orElse more

/-- Matches the pattern at the place of `state`, then what follows. The first way to match that `follow`
accepts decides. -/
def run : Pattern → State → Follow → Option State
  | .empty, state, follow => follow state
  | .char test, state, follow => (state.step? test).bind follow
  | .span test bounds preference, state, follow =>
    (state.spans test bounds preference).findSome? follow
  | .seq first second, state, follow => first.run state fun later => second.run later follow
  | .alt first second, state, follow =>
    (first.run state follow).orElse fun _ => second.run state follow
  | .iterate body bounds preference, state, follow =>
    times (fun later next => body.run later next) bounds.min state fun later =>
      further (fun later next => body.run later next) preference (later.cursor.left + 1)
        (bounds.max.map (· - bounds.min)) later follow
  | .group index body, state, follow =>
    body.run state fun later => follow (later.capture index state.cursor)
  | .again index, state, follow =>
    match state.captures.lookup index with
    | some text => (state.take? text).bind follow
    | none => none
  | .anchor condition, state, follow => if condition.holds state.cursor then follow state else none
  | .look direction negated body, state, follow =>
    let origin? := match direction with
      | .ahead => some state.cursor
      | .behind width => state.cursor.back? width
    let found := match origin? with
      | some origin => body.run { state with cursor := origin } some
      | none => none
    match found, negated with
    | some seen, false => follow { seen with cursor := state.cursor }
    | none, true => follow state
    | _, _ => none
  | .atomic body, state, follow => (body.run state some).bind follow
  | .conditional index yes no, state, follow =>
    if (state.captures.lookup index).isSome then yes.run state follow else no.run state follow

def matchesAt (pattern : Pattern) (cursor : Cursor) : Bool :=
  (pattern.run ⟨cursor, []⟩ some).isSome

/-- The pattern matches at the place or at one of the next `fuel` places. -/
def matchesFrom (pattern : Pattern) : Nat → Cursor → Bool
  | 0, cursor => pattern.matchesAt cursor
  | fuel + 1, cursor =>
    pattern.matchesAt cursor ||
      match cursor.next? with
      | some (_, later) => pattern.matchesFrom fuel later
      | none => false

/-- The pattern matches somewhere in the line. -/
def search (pattern : Pattern) (line : List Char) : Bool :=
  pattern.matchesFrom line.length (.ofLine line)

end ContractScan.Pattern
