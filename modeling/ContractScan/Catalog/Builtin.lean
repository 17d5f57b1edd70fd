import ContractScan.Catalog.Basic
import ContractScan.Pattern.Search

/-!
# The built-in catalog

The rules for known weaknesses of Solidity contracts, in the order in which they are tested on a line.
-/

namespace ContractScan.Builtin

/-- An entry for a text that has to occur. -/
def text (needle : Needle) : PatternEntry :=
  .ready (.substring needle)

/-- A definition with all its parts. -/
def define (id name description : String) (severity : Severity) (patterns : List PatternEntry)
    (suggestion : String) : RuleDefinition :=
  ⟨some id, some name, some description, some (.number severity.rank),
    some (.entries patterns), some suggestion⟩

def reentrancy : RuleDefinition :=
  define "reentrancy" "Reentrancy Vulnerability"
    ("Functions that could be exploited through reentrancy attacks where an external call is " ++
     "made before state changes.")
    .critical
    [.source "msg\\.sender\\.call\\\x7b.*\\\x7d\\(.*\\)"]
    ("Implement the checks-effects-interactions pattern. Always update state variables before " ++
     "making external calls. Consider using ReentrancyGuard from OpenZeppelin.")

def txOrigin : RuleDefinition :=
  define "tx-origin" "tx.origin Authentication"
    ("Using tx.origin for authentication is vulnerable to phishing attacks.")
    .high
    [text ⟨"tx.origin", by decide⟩]
    ("Use msg.sender instead of tx.origin for authentication.")

def uncheckedReturn : RuleDefinition :=
  define "unchecked-return" "Unchecked Return Values"
    ("Not checking the return value of functions that could fail.")
    .medium
    [.source "\\.send\\s*\\([^;]*\\)\\s*(?!\\s*require|\\s*if)"]
    ("Always check return values of low-level calls. Consider using OpenZeppelin's SafeERC20 " ++
     "for token transfers.")

def integerOverflow : RuleDefinition :=
  define "integer-overflow" "Integer Overflow/Underflow"
    ("Arithmetic operations that could result in integer overflow or underflow.")
    .high
    [text ⟨"+=", by decide⟩,
      text ⟨"-=", by decide⟩]
    ("Use SafeMath library for Solidity versions < 0.8.0. For Solidity >= 0.8.0, use the " ++
     "built-in overflow/underflow protection or unchecked blocks when appropriate.")

def timestampDependence : RuleDefinition :=
  define "timestamp-dependence" "Timestamp Dependence"
    ("Relying on block.timestamp for critical logic can be manipulated by miners.")
    .medium
    [text ⟨"block.timestamp", by decide⟩,
      .source "\\bnow\\b"]
    ("Avoid using block.timestamp for random number generation or precise timing. If needed, " ++
     "consider using an oracle for time-sensitive operations.")

def delegatecall : RuleDefinition :=
  define "delegatecall" "Dangerous delegatecall"
    ("Using delegatecall with user-supplied addresses or data can lead to contract takeover.")
    .critical
    [.source "\\.delegatecall\\s*\\("]
    ("Avoid using delegatecall with user-supplied inputs. If necessary, implement strict " ++
     "validation and whitelisting.")

def selfDestruct : RuleDefinition :=
  define "self-destruct" "Unprotected Self-Destruct"
    ("Self-destruct functionality that could be triggered by attackers.")
    .critical
    [.source "selfdestruct\\s*\\(",
      .source "suicide\\s*\\("]
    ("Ensure self-destruct functionality is protected by proper access controls. Consider " ++
     "removing it if not absolutely necessary.")

def defaultVisibility : RuleDefinition :=
  define "default-visibility" "Missing Function Visibility"
    ("Functions without explicit visibility default to public.")
    .medium
    [.source ("function\\s+[a-zA-Z0-9_]+\\s*\\([^)]*\\)(?![^\x7b;]*\\b(?:public|private|internal|external)\\b)")]
    ("Always specify function visibility (public, external, internal, private).")

def uncheckedMath : RuleDefinition :=
  define "unchecked-math" "Unchecked Math"
    ("Mathematical operations without overflow/underflow checks.")
    .high
    [.source "unchecked\\s*\\\x7b"]
    ("Only use unchecked blocks when you are absolutely certain overflow/underflow cannot " ++
     "occur. Otherwise, rely on Solidity 0.8.0+ built-in checks or SafeMath for earlier " ++
     "versions.")

def arbitrarySend : RuleDefinition :=
  define "arbitrary-send" "Arbitrary Send"
    ("Allowing arbitrary addresses to receive Ether can lead to fund theft.")
    .high
    [.source "\\.transfer\\s*\\(\\s*[^,)]*\\)",
      .source "\\.send\\s*\\(\\s*[^,)]*\\)",
      .source "\\.call\\s*\\\x7b.*value\\s*:"]
    ("Implement proper access controls for functions that transfer Ether. Consider using a " ++
     "withdrawal pattern instead of direct transfers.")

def weakRandomness : RuleDefinition :=
  define "weak-randomness" "Weak Randomness"
    ("Using predictable values for randomness can be exploited.")
    .high
    [.source "keccak256\\s*\\(\\s*abi\\.encodePacked\\s*\\(\\s*block\\.timestamp",
      .source "keccak256\\s*\\(\\s*abi\\.encodePacked\\s*\\(\\s*.*block\\.number"]
    ("Use a secure randomness source like Chainlink VRF for random number generation.")

def dosGasLimit : RuleDefinition :=
  define "dos-gas-limit" "DoS with Gas Limit"
    ("Operations in unbounded loops can cause transactions to run out of gas.")
    .medium
    [.source "for\\s*\\([^;]*;\\s*[^;]*;\\s*[^)]*\\)\\s*\\\x7b"]
    ("Avoid operations on unbounded arrays. Implement pull payment patterns instead of push. " ++
     "Consider pagination for large data sets.")

def shadowing : RuleDefinition :=
  define "shadowing" "State Variable Shadowing"
    ("Local variables with the same name as state variables can lead to confusion and bugs.")
    .medium
    [.source "^\\s*[a-zA-Z0-9_]+\\s+[a-zA-Z0-9_]+\\s*="]
    ("Use different naming conventions for state variables vs local variables (e.g., prefix " ++
     "state variables with \"_\").")

def txGasPrice : RuleDefinition :=
  define "tx-gas-price" "tx.gasprice Usage"
    ("Relying on tx.gasprice for logic can be manipulated by users.")
    .low
    [text ⟨"tx.gasprice", by decide⟩]
    ("Avoid using tx.gasprice for critical logic. If gas price is important, consider using a " ++
     "gas price oracle.")

def assemblyUsage : RuleDefinition :=
  define "assembly-usage" "Inline Assembly Usage"
    ("Using inline assembly bypasses Solidity safety features.")
    .medium
    [.source "assembly\\s*\\\x7b"]
    ("Minimize use of inline assembly. If necessary, thoroughly document and test assembly code.")

def definitions : List RuleDefinition :=
  [reentrancy, txOrigin, uncheckedReturn, integerOverflow,
    timestampDependence, delegatecall, selfDestruct, defaultVisibility,
    uncheckedMath, arbitrarySend, weakRandomness, dosGasLimit,
    shadowing, txGasPrice, assemblyUsage]

def catalog : Catalog :=
  match Catalog.build definitions with
  | .ok rules => rules
  | .error _ => []

end ContractScan.Builtin
