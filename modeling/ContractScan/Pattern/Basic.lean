/-!
# Patterns

The syntax of search patterns. A pattern is searched in a line without regard to case; `Pattern.Parser`
reads it from its written form and `Pattern.Search` looks for it.
-/

namespace ContractScan

namespace Pattern

/-- Classes of characters that have a name. -/
inductive Category where
  | digit
  | blank
  | word
  deriving Repr, DecidableEq

/-- A member of a character set. -/
inductive SetItem where
  /-- One character, by code point. -/
  | single (code : Nat)
  /-- All characters between two code points, both included. -/
  | range (first last : Nat)
  /-- A named class, or its complement. -/
  | named (category : Category) (complement : Bool)
  deriving Repr, DecidableEq

/-- A test on one character. -/
inductive CharTest where
  /-- Anything but a line feed. -/
  | any
  /-- One character, or any other. -/
  | single (code : Nat) (negated : Bool)
  /-- A member of a set, or anything outside it. -/
  | set (items : List SetItem) (negated : Bool)
  deriving Repr, DecidableEq

/-- A condition on a place between two characters. -/
inductive Anchor where
  /-- Before the first character. -/
  | start
  /-- Before the first character, or after a line feed. -/
  | lineStart
  /-- After the last character, or before a line feed that is the last one. -/
  | lineEnd
  /-- After the last character, or before a line feed. -/
  | anyLineEnd
  /-- After the last character. -/
  | textEnd
  /-- Between a word character and another one or an end. -/
  | boundary
  /-- Not a boundary. -/
  | interior
  deriving Repr, DecidableEq

/-- How often something is repeated; without `max` there is no upper limit. -/
structure Bounds where
  min : Nat
  max : Option Nat
  deriving Repr, DecidableEq

/-- Which number of repetitions is tried first. -/
inductive Preference where
  | most
  | fewest
  deriving Repr, DecidableEq

/-- Where a look-around looks. -/
inductive Direction where
  | ahead
  /-- At what ends here and starts `width` characters before. -/
  | behind (width : Nat)
  deriving Repr, DecidableEq

end Pattern

open Pattern in
inductive Pattern where
  /-- Nothing; matches everywhere. -/
  | empty
  /-- One character. -/
  | char (test : CharTest)
  /-- A run of characters that all pass one test. -/
  | span (test : CharTest) (bounds : Bounds) (preference : Preference)
  /-- One pattern after the other. -/
  | seq (first second : Pattern)
  /-- One pattern or the other; the first is tried first. -/
  | alt (first second : Pattern)
  /-- A pattern several times in a row. -/
  | iterate (body : Pattern) (bounds : Bounds) (preference : Preference)
  /-- A numbered group, which remembers what it matched. -/
  | group (index : Nat) (body : Pattern)
  /-- What the numbered group matched, again. -/
  | again (index : Nat)
  /-- A condition on the place. -/
  | anchor (condition : Anchor)
  /-- A condition on what stands after or before the place. -/
  | look (direction : Direction) (negated : Bool) (body : Pattern)
  /-- The first way to match the pattern, and no other one. -/
  | atomic (body : Pattern)
  /-- One pattern if the numbered group has matched, the other one if it has not. -/
  | conditional (index : Nat) (yes no : Pattern)
  deriving Repr, DecidableEq

namespace Pattern

/-- Patterns one after the other. -/
def sequence : List Pattern → Pattern
  | [] => .empty
  | [p] => p
  | p :: ps => .seq p (sequence ps)

/-- The parts that a pattern consists of, one after the other; none of them is a sequence or empty. -/
def parts : Pattern → List Pattern
  | .empty => []
  | .seq p q => p.parts ++ q.parts
  | p => [p]

/-- The pattern has no pattern inside, so that it can match in one way only. -/
def isAtom : Pattern → Bool
  | .char _ | .again _ | .anchor _ => true
  | _ => false

/-- Splits several lists of parts after the atoms that all of them start with: these, and what is left of
each list. -/
def splitStart : List Pattern → List (List Pattern) → List Pattern × List (List Pattern)
  | [], others => ([], [] :: others)
  | p :: first, others =>
    if p.isAtom && others.all fun parts => parts.head? = some p then
      let (start, rest) := splitStart first (others.map List.tail)
      (p :: start, rest)
    else ([], (p :: first) :: others)

/-- The set members that a pattern for one character stands for. -/
def setItems? : Pattern → Option (List SetItem)
  | .char (.single code false) => some [.single code]
  | .char (.set items false) => some items
  | _ => none

/-- Patterns of which one has to match, as a chain of alternatives. -/
def chain : List Pattern → Pattern
  | [] => .empty
  | [p] => p
  | p :: ps => .alt p (chain ps)

/-- Patterns of which one has to match. Alternatives of one character each form a set. -/
def choice (branches : List Pattern) : Pattern :=
  match branches.mapM setItems? with
  | some items => .char (.set items.flatten.eraseDups false)
  | none => chain branches

/-- Patterns of which one has to match. What all of them start with stands once, before the choice. -/
def alternatives : List Pattern → Pattern
  | [] => .empty
  | [p] => p
  | p :: ps =>
    let (start, rest) := splitStart p.parts (ps.map parts)
    sequence (start ++ [choice (rest.map sequence)])

/-- A pattern several times in a row. One character repeated is a run. -/
def repeated (body : Pattern) (bounds : Bounds) (preference : Preference) : Pattern :=
  match body with
  | .char test => .span test bounds preference
  | _ => .iterate body bounds preference

/-- A pattern as many times in a row as possible, and no fewer. Each time it matches in the first way only. -/
def possessive (body : Pattern) (bounds : Bounds) : Pattern :=
  match body with
  | .char test => .atomic (.span test bounds .most)
  | _ => .atomic (.iterate (.atomic body) bounds .most)

/-- The pattern as one part, which is not taken apart among alternatives. -/
def once (body : Pattern) : Pattern :=
  .iterate body ⟨1, some 1⟩ .most

end Pattern

end ContractScan
