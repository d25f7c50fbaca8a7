/-! The shortest decimal of a binary floating-point number: the fewest digits that
read back as the number, and of those the nearest. Two may be equally near; which one
is taken then is the writer's choice. All arithmetic is exact. -/
namespace KeyScript.Decimal

/-- A binary number of sixty-four bits. A finite one is `mantissa * 2 ^ exponent`. -/
inductive Binary where
  | notANumber
  | infinite (negative : Bool)
  | finite (negative : Bool) (mantissa : Nat) (exponent : Int)
  deriving DecidableEq

/-- As many mantissas as share an exponent: they have fifty-two bits of their own. -/
def mantissas : Nat := 0x10000000000000

/-- As many exponents as there are: they have eleven bits. -/
def exponents : Nat := 0x800

/-- One sign bit, eleven exponent bits, fifty-two mantissa bits. -/
def Binary.ofBits (bits : Nat) : Binary :=
  let negative : Bool := bits / (mantissas * exponents) % 2 == 1
  let biased : Nat := bits / mantissas % exponents
  let fraction : Nat := bits % mantissas
  if biased = 2047 then
    if fraction = 0 then .infinite negative else .notANumber
  else if biased = 0 then .finite negative fraction (-1074)
  else .finite negative (mantissas + fraction) ((biased : Int) - 1075)

structure Ratio where
  num : Nat
  den : Nat

def scaled (base n : Nat) (power : Int) : Ratio :=
  if power < 0 then ⟨n, base.pow power.natAbs⟩ else ⟨n * base.pow power.natAbs, 1⟩

namespace Ratio

def lt (a b : Ratio) : Bool := a.num * b.den < b.num * a.den

def le (a b : Ratio) : Bool := a.num * b.den ≤ b.num * a.den

def quotient (a b : Ratio) : Nat := a.num * b.den / (a.den * b.num)

end Ratio

/-- The reals that round to a number, ends included when its mantissa is even.
Below a power of two the next number is half as far away. -/
structure Neighbourhood where
  low : Ratio
  value : Ratio
  high : Ratio
  closed : Bool

def Neighbourhood.of (mantissa : Nat) (exponent : Int) : Neighbourhood :=
  let down := if mantissa = mantissas ∧ exponent ≠ -1074 then 1 else 2
  { low := scaled 2 (4 * mantissa - down) (exponent - 2)
    value := scaled 2 (4 * mantissa) (exponent - 2)
    high := scaled 2 (4 * mantissa + 2) (exponent - 2)
    closed := mantissa % 2 = 0 }

def Neighbourhood.holds (n : Neighbourhood) (r : Ratio) : Bool :=
  if n.closed then n.low.le r && r.le n.high else n.low.lt r && r.lt n.high

structure Digits where
  digits : Nat
  exponent : Int
  deriving DecidableEq

def Digits.ratio (d : Digits) : Ratio := scaled 10 d.digits d.exponent

/-- The least power of ten above `r`, which is positive. -/
def magnitude (r : Ratio) : Int :=
  if r.den ≤ r.num then ((Nat.toDigits 10 (r.num / r.den)).length : Int)
  else
    match (List.range 400).find? fun j => r.den ≤ r.num * Nat.pow 10 (j + 1) with
    | some j => -(j : Int)
    | none => -400

/-- Which of two decimals is taken that are equally near. -/
inductive Tie where
  | up
  /-- The one whose last digit is even. -/
  | even
  deriving DecidableEq

/-- Of `below` and the number after it, the one that is taken. -/
def Tie.resolve (tie : Tie) (below : Nat) : Nat :=
  match tie with
  | up => below + 1
  | even => if below % 2 = 0 then below else below + 1

/-- The point of the grid of `10 ^ exponent` that is nearest to the value, if one next to
the value rounds to it. -/
def onGrid (tie : Tie) (n : Neighbourhood) (exponent : Int) : Option Digits :=
  let below := n.value.quotient (scaled 10 1 exponent)
  let down : Digits := ⟨below, exponent⟩
  let up : Digits := ⟨below + 1, exponent⟩
  let middle := scaled 10 (2 * below + 1) exponent
  let doubled : Ratio := ⟨2 * n.value.num, n.value.den⟩
  match n.holds down.ratio, n.holds up.ratio with
  | true, true =>
    some (if doubled.lt middle then down
      else if middle.lt doubled then up
      else ⟨tie.resolve below, exponent⟩)
  | true, false => some down
  | false, true => some up
  | false, false => none

/-- Takes zeros off the end of the digits, `fuel` of them at most. -/
def strip : Nat → Digits → Digits
  | 0, d => d
  | fuel + 1, d =>
    if d.digits ≠ 0 ∧ d.digits % 10 = 0 then strip fuel ⟨d.digits / 10, d.exponent + 1⟩ else d

/-- The shortest decimal that reads back as `mantissa * 2 ^ exponent`. Seventeen digits suffice. -/
def shortest (tie : Tie) (mantissa : Nat) (exponent : Int) : Digits :=
  if mantissa = 0 then ⟨0, 0⟩
  else
    let n := Neighbourhood.of mantissa exponent
    let top := magnitude n.value
    match (List.range 17).findSome? fun places => onGrid tie n (top - (places + 1 : Nat)) with
    | some d => strip 18 d
    | none => ⟨0, 0⟩

end KeyScript.Decimal
