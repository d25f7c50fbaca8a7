import KeyScript.Text.Digits

/-! Sets of code points, and tables about them, written as numbers with blanks between.
A set is given by the code points where it begins and ends, each by its distance
from the one before. -/
namespace KeyScript.Text

/-- The numbers of a text; anything but a digit parts them. `read` is the number
whose digits have come so far. -/
def numbersFrom (read : Option Nat) : List Char → List Nat
  | [] => read.toList
  | c :: rest =>
    match decimalDigit? c with
    | some d => numbersFrom (some (read.getD 0 * 10 + d)) rest
    | none => read.toList ++ numbersFrom none rest

def numbers (text : String) : List Nat := numbersFrom none text.toList

def sums (start : Nat) : List Nat → List Nat
  | [] => []
  | n :: rest => (start + n) :: sums (start + n) rest

/-- Where a set begins and ends by turns, in order. -/
structure Boundaries where
  places : List Nat

namespace Boundaries

def ofDistances (text : String) : Boundaries := ⟨sums 0 (numbers text)⟩

/-- A code point is inside when it has passed an odd number of boundaries. -/
def contains (b : Boundaries) (c : Char) : Bool :=
  (b.places.takeWhile (· ≤ c.toNat)).length % 2 == 1

end Boundaries

end KeyScript.Text
