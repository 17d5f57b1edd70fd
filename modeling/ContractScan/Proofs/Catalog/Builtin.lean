import ContractScan.Catalog.Builtin

/-! # What the built-in rules look for

The written patterns of the built-in rules are read once here. What they were read as stands in
`Builtin.sought`, put together from texts and runs, so that facts about the rules can be checked and proved
without reading the patterns again.
-/

namespace ContractScan

open Pattern

/-- What a matcher looks for. -/
inductive Sought where
  | text (needle : String)
  | shape (pattern : Pattern)
  deriving DecidableEq

def Matcher.sought : Matcher → Sought
  | .substring needle => .text needle.text
  | .regex expression => .shape expression.pattern

def Rule.sought (rule : Rule) : String × List Sought :=
  (rule.id, rule.patterns.map Matcher.sought)

def Sought.detects : Sought → String → Bool
  | .text needle, line => Text.occursIn (Text.Case.lower needle.toList) (Text.Case.lower line.toList)
  | .shape pattern, line => pattern.search line.toList

theorem Matcher.detects_sought (matcher : Matcher) (line : String) :
    matcher.sought.detects line = matcher.detects line := by
  cases matcher <;> rfl

theorem Rule.detects_eq_any_sought (rule : Rule) (line : String) :
    rule.detects line = rule.sought.2.any fun sought => sought.detects line := by
  simp [detects, sought, List.any_map, Function.comp_def, Matcher.detects_sought]

namespace Builtin

/-- The characters of a text, one after the other. -/
def letters (text : String) : List Pattern :=
  text.toList.map fun c => .char (.single c.toNat false)

/-- A run of any length. -/
def run (test : CharTest) : Pattern :=
  .span test ⟨0, none⟩ .most

/-- A run of one character or more. -/
def run1 (test : CharTest) : Pattern :=
  .span test ⟨1, none⟩ .most

def blank : CharTest := .set [.named .blank false] false

/-- Letters, digits and the underscore of ASCII. -/
def nameChar : CharTest := .set [.range 97 122, .range 65 90, .range 48 57, .single 95] false

def other (c : Char) : CharTest := .single c.toNat true

def noneOf (text : String) : CharTest := .set (text.toList.map fun c => .single c.toNat) true

def sought : List (String × List Sought) := [
  ("reentrancy", [.shape (sequence
    (letters "msg.sender.call\x7b" ++ [run .any] ++ letters "\x7d(" ++ [run .any] ++ letters ")"))]),
  ("tx-origin", [.text "tx.origin"]),
  ("unchecked-return", [.shape (sequence (letters ".send" ++ [run blank] ++ letters "(" ++ [run (other ';')] ++
    letters ")" ++ [run blank, .look .ahead true (.alt (sequence (run blank :: letters "require"))
      (sequence (run blank :: letters "if")))]))]),
  ("integer-overflow", [.text "+=", .text "-="]),
  ("timestamp-dependence", [.text "block.timestamp",
    .shape (sequence (.anchor .boundary :: letters "now" ++ [.anchor .boundary]))]),
  ("delegatecall", [.shape (sequence (letters ".delegatecall" ++ [run blank] ++ letters "("))]),
  ("self-destruct", [.shape (sequence (letters "selfdestruct" ++ [run blank] ++ letters "(")),
    .shape (sequence (letters "suicide" ++ [run blank] ++ letters "("))]),
  ("default-visibility", [.shape (sequence (letters "function" ++ [run1 blank, run1 nameChar, run blank] ++
    letters "(" ++ [run (other ')')] ++ letters ")" ++
    [.look .ahead true (sequence [run (noneOf "\x7b;"), .anchor .boundary,
      .alt (sequence (letters "public")) (.alt (sequence (letters "private"))
        (.alt (sequence (letters "internal")) (sequence (letters "external")))), .anchor .boundary])]))]),
  ("unchecked-math", [.shape (sequence (letters "unchecked" ++ [run blank] ++ letters "\x7b"))]),
  ("arbitrary-send", [
    .shape (sequence (letters ".transfer" ++ [run blank] ++ letters "(" ++ [run blank, run (noneOf ",)")] ++
      letters ")")),
    .shape (sequence (letters ".send" ++ [run blank] ++ letters "(" ++ [run blank, run (noneOf ",)")] ++
      letters ")")),
    .shape (sequence (letters ".call" ++ [run blank] ++ letters "\x7b" ++ [run .any] ++ letters "value" ++
      [run blank] ++ letters ":"))]),
  ("weak-randomness", [
    .shape (sequence (letters "keccak256" ++ [run blank] ++ letters "(" ++ [run blank] ++
      letters "abi.encodePacked" ++ [run blank] ++ letters "(" ++ [run blank] ++ letters "block.timestamp")),
    .shape (sequence (letters "keccak256" ++ [run blank] ++ letters "(" ++ [run blank] ++
      letters "abi.encodePacked" ++ [run blank] ++ letters "(" ++ [run blank, run .any] ++
      letters "block.number"))]),
  ("dos-gas-limit", [.shape (sequence (letters "for" ++ [run blank] ++ letters "(" ++ [run (other ';')] ++
    letters ";" ++ [run blank, run (other ';')] ++ letters ";" ++ [run blank, run (other ')')] ++ letters ")" ++
    [run blank] ++ letters "\x7b"))]),
  ("shadowing", [.shape (sequence ([.anchor .start, run blank, run1 nameChar, run1 blank, run1 nameChar,
    run blank] ++ letters "="))]),
  ("tx-gas-price", [.text "tx.gasprice"]),
  ("assembly-usage", [.shape (sequence (letters "assembly" ++ [run blank] ++ letters "\x7b"))])]

-- The kernel reads the written patterns here, once for everything that is said about them.
theorem definitions_sought : (match Catalog.build definitions with
    | .ok rules => decide (rules.map Rule.sought = sought)
    | .error _ => false) = true := by
  decide +kernel

theorem build_definitions : Catalog.build definitions = .ok catalog ∧ catalog.map Rule.sought = sought := by
  have read := definitions_sought
  unfold catalog
  generalize Catalog.build definitions = result at read ⊢
  cases result with
  | error cause => cases read
  | ok rules => exact ⟨rfl, of_decide_eq_true read⟩

/-- A rule of the built-in catalog looks for what is listed. -/
theorem sought_of_mem {rule : Rule} (member : rule ∈ catalog) : rule.sought ∈ sought := by
  rw [← build_definitions.2]
  exact List.mem_map.mpr ⟨rule, member, rfl⟩

theorem exists_of_mem_sought {listed : String × List Sought} (member : listed ∈ sought) :
    ∃ rule ∈ catalog, rule.sought = listed := by
  rw [← build_definitions.2] at member
  exact List.mem_map.mp member

end Builtin

end ContractScan
