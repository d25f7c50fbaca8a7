/-! Values of a TOML document. -/
namespace KeyScript.Toml

inductive Value where
  | string (s : String)
  | integer (n : Int)
  | float (text : String)
  | boolean (b : Bool)
  | datetime (text : String)
  | array (items : List Value)
  | table (entries : List (String × Value))

namespace Value

def string? : Value → Option String
  | .string s => some s
  | _ => none

def boolean? : Value → Option Bool
  | .boolean b => some b
  | _ => none

/-- A whole number from zero to `limit`. -/
def nat? (limit : Nat) : Value → Option Nat
  | .integer (.ofNat n) => if n ≤ limit then some n else none
  | _ => none

def array? : Value → Option (List Value)
  | .array items => some items
  | _ => none

/-- A list of strings. -/
def strings? (v : Value) : Option (List String) := v.array?.bind (·.mapM string?)

end Value

/-- The value of the first entry called `key`. -/
def lookup (key : String) (entries : List (String × Value)) : Option Value :=
  (entries.find? (·.1 == key)).map (·.2)

end KeyScript.Toml
