/-! JSON values. -/
namespace KeyScript

inductive Json where
  | null
  | bool (b : Bool)
  | integer (n : Int)
  /-- The number `mantissa * 2 ^ exponent`, with its sign. -/
  | float (negative : Bool) (mantissa : Nat) (exponent : Int)
  | string (s : String)
  | array (items : List Json)
  | object (fields : List (String × Json))

namespace Json

instance : Inhabited Json := ⟨.null⟩

def nat (n : Nat) : Json := .integer n

def ofOption (encode : α → Json) : Option α → Json
  | some a => encode a
  | none => .null

def strings (items : List String) : Json := .array (items.map .string)

/-- The field's value, if this is an object with that field. -/
def get? (name : String) : Json → Option Json
  | .object fields => (fields.find? (·.1 == name)).map (·.2)
  | _ => none

def string? : Json → Option String
  | .string s => some s
  | _ => none

def bool? : Json → Option Bool
  | .bool b => some b
  | _ => none

def int? : Json → Option Int
  | .integer n => some n
  | _ => none

def nat? (j : Json) : Option Nat :=
  match j.int? with
  | some (.ofNat n) => some n
  | _ => none

def array? : Json → Option (List Json)
  | .array items => some items
  | _ => none

def object? : Json → Option (List (String × Json))
  | .object fields => some fields
  | _ => none

def isNull : Json → Bool
  | .null => true
  | _ => false

/-- Puts a field among fields sorted by name, in the place of one of its name. -/
def insertField (name : String) (value : Json) : List (String × Json) → List (String × Json)
  | [] => [(name, value)]
  | (other, old) :: rest =>
    if name = other then (name, value) :: rest
    else if name < other then (name, value) :: (other, old) :: rest
    else (other, old) :: insertField name value rest

mutual

/-- The value with the fields of every object sorted by name; of fields with one
name the last is kept. -/
def settled : Json → Json
  | .array items => .array (settledItems items)
  | .object fields => .object (settledFields [] fields)
  | value => value

def settledItems : List Json → List Json
  | [] => []
  | item :: rest => item.settled :: settledItems rest

def settledFields (done : List (String × Json)) : List (String × Json) → List (String × Json)
  | [] => done
  | (name, value) :: rest => settledFields (insertField name value.settled done) rest

end

end Json

end KeyScript
