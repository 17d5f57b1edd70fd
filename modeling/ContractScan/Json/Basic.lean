/-!
# JSON values
-/

namespace ContractScan

/-- A JSON value. Objects keep the order of their fields. -/
inductive Json where
  | null
  | bool (value : Bool)
  /-- The number `mantissa / 10 ^ decimals`. -/
  | number (mantissa : Int) (decimals : Nat)
  | string (value : String)
  | array (items : List Json)
  | object (fields : List (String × Json))
  deriving Repr, BEq, Inhabited

namespace Json

def int (value : Int) : Json := .number value 0

def field? (name : String) : Json → Option Json
  | .object fields => fields.lookup name
  | _ => none

end Json

end ContractScan
