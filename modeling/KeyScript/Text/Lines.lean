import KeyScript.Text.Basic

/-! Lines of a text and the two ways of counting along one: an editor counts
UTF-16 units, the scanner counts characters. -/
namespace KeyScript.Text

/-- A text has one more line than line feeds. -/
def lines (cs : List Char) : List (List Char) := pieces '\n' cs

def units (c : Char) : Nat := if c.toNat < 0x10000 then 1 else 2

def width : List Char → Nat
  | [] => 0
  | c :: cs => units c + width cs

/-- The least number of characters of the line whose width reaches `target`.
Past the end of the line each further unit counts as one character. -/
def columnOfUnits : List Char → Nat → Nat
  | _, 0 => 0
  | [], target => target
  | c :: cs, target => columnOfUnits cs (target - units c) + 1

/-- Converts a column of UTF-16 units on line `line`. A column on a line that
does not exist is kept. -/
def charColumn (text : String) (line target : Nat) : Nat :=
  match (lines text.toList)[line]? with
  | some content => columnOfUnits content target
  | none => target

end KeyScript.Text
