import KeyScript.Decimal.Layout
import KeyScript.Json

/-! Writing JSON, on one line or indented by two spaces. -/
namespace KeyScript.Json

/-- A character inside a JSON string. Quotes, backslashes and control characters are escaped. -/
def escape (c : Char) : List Char :=
  match c with
  | '"' => ['\\', '"']
  | '\\' => ['\\', '\\']
  | '\n' => ['\\', 'n']
  | '\r' => ['\\', 'r']
  | '\t' => ['\\', 't']
  | c =>
    if c.toNat = 8 then ['\\', 'b']
    else if c.toNat = 12 then ['\\', 'f']
    else if c.toNat < 32 then '\\' :: 'u' :: Text.hex 4 c.toNat
    else [c]

def quote (s : String) : List Char := '"' :: (s.toList.flatMap escape ++ ['"'])

/-- Written out from a hundred-thousandth up to below ten to the sixteenth. -/
def floatLayout : Decimal.Layout := ⟨-5, 16, true⟩

/-- Of two shortest decimals that are equally near the even one is written. -/
def floatText (negative : Bool) (mantissa : Nat) (exponent : Int) : List Char :=
  ((Decimal.Binary.finite negative mantissa exponent).written .even (·.laid floatLayout)).toList

mutual

/-- One value, with `tail` written behind it. -/
def compactOnto (tail : List Char) : Json → List Char
  | .null => "null".toList ++ tail
  | .bool true => "true".toList ++ tail
  | .bool false => "false".toList ++ tail
  | .integer n => Text.decimalInt n ++ tail
  | .float negative mantissa exponent => floatText negative mantissa exponent ++ tail
  | .string s => quote s ++ tail
  | .array items => '[' :: compactItems (']' :: tail) items
  | .object fields => '\x7b' :: compactFields ('\x7d' :: tail) fields

def compactItems (tail : List Char) : List Json → List Char
  | [] => tail
  | [item] => compactOnto tail item
  | item :: next :: rest => compactOnto (',' :: compactItems tail (next :: rest)) item

def compactFields (tail : List Char) : List (String × Json) → List Char
  | [] => tail
  | [(name, value)] => quote name ++ ':' :: compactOnto tail value
  | (name, value) :: next :: rest =>
    quote name ++ ':' :: compactOnto (',' :: compactFields tail (next :: rest)) value

end

/-- The value on one line. -/
def compact (j : Json) : String := String.ofList (compactOnto [] j)

def newLine (depth : Nat) : List Char := '\n' :: List.replicate (2 * depth) ' '

mutual

/-- The value on indented lines, `depth` levels deep. -/
def prettyAt (depth : Nat) : Json → List Char
  | .array [] => ['[', ']']
  | .object [] => ['\x7b', '\x7d']
  | .array (item :: rest) =>
    '[' :: (newLine (depth + 1) ++ prettyAt (depth + 1) item ++ prettyItems depth rest)
  | .object ((name, value) :: rest) =>
    '\x7b' :: (newLine (depth + 1) ++ quote name ++ ':' :: ' ' :: prettyAt (depth + 1) value ++
      prettyFields depth rest)
  | .null => "null".toList
  | .bool true => "true".toList
  | .bool false => "false".toList
  | .integer n => Text.decimalInt n
  | .float negative mantissa exponent => floatText negative mantissa exponent
  | .string s => quote s

def prettyItems (depth : Nat) : List Json → List Char
  | [] => newLine depth ++ [']']
  | item :: rest =>
    ',' :: (newLine (depth + 1) ++ prettyAt (depth + 1) item ++ prettyItems depth rest)

def prettyFields (depth : Nat) : List (String × Json) → List Char
  | [] => newLine depth ++ ['\x7d']
  | (name, value) :: rest =>
    ',' :: (newLine (depth + 1) ++ quote name ++ ':' :: ' ' :: prettyAt (depth + 1) value ++
      prettyFields depth rest)

end

def pretty (j : Json) : String := String.ofList (prettyAt 0 j)

end KeyScript.Json
