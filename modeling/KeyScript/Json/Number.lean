import KeyScript.Decimal.Rounded
import KeyScript.Json.Misread
import KeyScript.Json

/-! Reading numbers. A whole number that fits a word of sixty-four bits is kept as it
is. Any other is the product or quotient of its leading digits and a power of ten,
both rounded to binary numbers first. -/
namespace KeyScript.Json

open Decimal

/-- Leading digits may make up this number at most. -/
def wordLimit : Nat := UInt64.size - 1

/-- The leading digits as a number, and how many digits follow them. -/
structure Leading where
  significand : Nat
  dropped : Nat

/-- Adds a digit, until one does not fit. -/
def Leading.add (l : Leading) (c : Char) : Leading :=
  let next := l.significand * 10 + (Text.decimalDigit? c).getD 0
  if l.dropped = 0 ∧ next ≤ wordLimit then ⟨next, 0⟩ else ⟨l.significand, l.dropped + 1⟩

def leading (significand : Nat) (digits : List Char) : Leading :=
  digits.foldl Leading.add ⟨significand, 0⟩

def product : Binary → Binary → Binary
  | .finite n m e, .finite n' m' e' => .nearest (n != n') (scaled 2 (m * m') (e + e'))
  | _, _ => .notANumber

def quotient : Binary → Binary → Binary
  | .finite n m e, .finite n' m' e' =>
    let r := scaled 2 m (e - e')
    .nearest (n != n') ⟨r.num, r.den * m'⟩
  | _, _ => .notANumber

def isZero : Binary → Bool
  | .finite _ 0 _ => true
  | _ => false

/-- The greatest power of ten that is multiplied or divided by in one step. -/
def tenLimit : Nat := 308

def ten (power : Nat) : Binary := .nearest false ⟨Nat.pow 10 power, 1⟩

/-- Multiplies by a power of ten, `fuel` steps at most. Three divisions by the
greatest power leave nothing of any number. -/
def scaleTen : Nat → Binary → Int → Binary
  | 0, f, _ => f
  | fuel + 1, f, power =>
    if power.natAbs ≤ tenLimit then
      if 0 ≤ power then product f (ten power.natAbs) else quotient f (ten power.natAbs)
    else if isZero f then f
    else if 0 ≤ power then .infinite false
    else scaleTen fuel (quotient f (ten tenLimit)) (power + tenLimit)

/-- The number `significand * 10 ^ power`, if it is not too large. -/
def scaledNumber? (negative : Bool) (significand : Nat) (power : Int) : Option Json :=
  match scaleTen 4 (.nearest false ⟨significand, 1⟩) power with
  | .finite _ mantissa exponent => some (.float negative mantissa exponent)
  | _ => none

def zero (negative : Bool) : Json := .float negative 0 leastExponent

/-- A whole number. Negative zero, and what no word holds, is a binary number. -/
def wholeNumber (negative : Bool) (n : Nat) : Json :=
  if !negative then .integer n
  else if 0 < n ∧ n ≤ UInt64.size / 2 then .integer (-(n : Int))
  else (scaledNumber? true n 0).getD (zero true)

def isDigit (c : Char) : Bool := (Text.decimalDigit? c).isSome

def powerLimit : Nat := UInt32.size / 2 - 1

/-- The power of ten behind an exponent mark, up to the first digit that makes it too
large, and what follows. -/
def power (n : Nat) : List Char → Nat × List Char
  | [] => (n, [])
  | c :: rest =>
    match Text.decimalDigit? c with
    | none => (n, c :: rest)
    | some d => if powerLimit < n * 10 + d then (n * 10 + d, rest) else power (n * 10 + d) rest

def ranged (rest : List Char) : Option Json → Except Misread (Json × List Char)
  | some value => .ok (value, rest)
  | none => .error ⟨.range, rest, 0⟩

def exponent (negative : Bool) (significand : Nat) (start : Int) (cs : List Char) :
    Except Misread (Json × List Char) :=
  let (down, digits) := match cs with
    | '-' :: more => (true, more)
    | '+' :: more => (false, more)
    | _ => (false, cs)
  match digits with
  | [] => .error ⟨.endInValue, [], 0⟩
  | c :: _ =>
    if !isDigit c then .error ⟨.number, digits, 1⟩
    else
      let (n, rest) := power 0 digits
      if powerLimit < n then
        if significand ≠ 0 ∧ !down then .error ⟨.range, rest, 0⟩
        else .ok (zero negative, rest.dropWhile isDigit)
      else ranged rest (scaledNumber? negative significand (if down then start - n else start + n))

def fraction (negative : Bool) (significand : Nat) (start : Int) (cs : List Char) :
    Except Misread (Json × List Char) :=
  let digits := cs.takeWhile isDigit
  let rest := cs.dropWhile isDigit
  let l := leading significand digits
  let power := start - (digits.length - l.dropped : Nat)
  match digits, rest with
  | [], [] => .error ⟨.endInValue, [], 1⟩
  | [], _ => .error ⟨.number, rest, 1⟩
  | _, c :: more =>
    if c == 'e' || c == 'E' then exponent negative l.significand power more
    else ranged rest (scaledNumber? negative l.significand power)
  | _, [] => ranged [] (scaledNumber? negative l.significand power)

/-- What may follow the whole digits of a number. -/
def afterWhole (negative : Bool) (l : Leading) (rest : List Char) :
    Except Misread (Json × List Char) :=
  match rest with
  | '.' :: more => fraction negative l.significand l.dropped more
  | 'e' :: more => exponent negative l.significand l.dropped more
  | 'E' :: more => exponent negative l.significand l.dropped more
  | _ =>
    if l.dropped = 0 then .ok (wholeNumber negative l.significand, rest)
    else ranged rest (scaledNumber? negative l.significand l.dropped)

def unsigned (negative : Bool) (cs : List Char) : Except Misread (Json × List Char) :=
  match cs with
  | [] => .error ⟨.endInValue, [], 0⟩
  | '0' :: rest =>
    if rest.head?.any isDigit then .error ⟨.number, rest, 1⟩ else afterWhole negative ⟨0, 0⟩ rest
  | c :: _ =>
    if isDigit c then
      afterWhole negative (leading 0 (cs.takeWhile isDigit)) (cs.dropWhile isDigit)
    else .error ⟨.number, cs, 1⟩

end KeyScript.Json
