import KeyScript.Decimal.Rounded
import KeyScript.Text.Digits
import KeyScript.Toml.Value

/-! Numbers, dates and truth values, each written as one word without blanks. A date
and a time may also stand with one space between them. -/
namespace KeyScript.Toml

def isDigit (c : Char) : Bool := (Text.decimalDigit? c).isSome

/-- Digits with single underscores between them; the underscores are taken out. -/
def grouped? (digit : Char → Bool) : List Char → Option (List Char)
  | [] => none
  | [c] => if digit c then some [c] else none
  | c :: '_' :: rest => if digit c then (grouped? digit rest).map (c :: ·) else none
  | c :: rest => if digit c then (grouped? digit rest).map (c :: ·) else none

/-- Decimal digits with no zero in front, other than zero itself. -/
def decimalDigits? (cs : List Char) : Option (List Char) :=
  match grouped? isDigit cs with
  | some ('0' :: _ :: _) => none
  | digits => digits

def unsign : List Char → Bool × List Char
  | '-' :: rest => (true, rest)
  | '+' :: rest => (false, rest)
  | cs => (false, cs)

def based? (base : Nat) (cs : List Char) : Option Int := do
  let digit? := fun c => (Text.hexDigit? c).filter (· < base)
  let digits ← grouped? (fun c => (digit? c).isSome) cs
  let n ← Text.numberOf? base digit? digits
  some n

def integer? : List Char → Option Int
  | '0' :: 'x' :: rest => based? 16 rest
  | '0' :: 'o' :: rest => based? 8 rest
  | '0' :: 'b' :: rest => based? 2 rest
  | cs => do
    let (negative, cs) := unsign cs
    let digits ← decimalDigits? cs
    let n ← Text.natOf? digits
    some (if negative then -(n : Int) else n)

/-- Integers have at most 128 bits, with or without a sign. -/
def isWithinBits (n : Int) : Bool := -(Nat.pow 2 127 : Int) ≤ n && n < (Nat.pow 2 128 : Int)

def isExponentMark (c : Char) : Bool := c == 'e' || c == 'E'

/-- The digits behind a mark; there are none without the mark. -/
def marked? : List Char → Option (List Char)
  | [] => some []
  | _ :: cs => grouped? isDigit cs

/-- A power of ten behind an exponent mark; without the mark it is zero. -/
def power? : List Char → Option Int
  | [] => some 0
  | _ :: cs => do
    let (negative, cs) := unsign cs
    let n ← (grouped? isDigit cs).bind Text.natOf?
    some (if negative then -(n : Int) else n)

def decimal? (cs : List Char) : Option Decimal.Digits := do
  let mantissa := cs.takeWhile (!isExponentMark ·)
  let power := cs.dropWhile (!isExponentMark ·)
  let fraction := mantissa.dropWhile (· != '.')
  if fraction.isEmpty && power.isEmpty then none
  else
    let whole ← decimalDigits? (mantissa.takeWhile (· != '.'))
    let places ← marked? fraction
    let exponent ← power? power
    let digits ← Text.natOf? (whole ++ places)
    some ⟨digits, exponent - places.length⟩

/-- A decimal that a binary number of sixty-four bits can hold, or a word for none. -/
def isFloat (cs : List Char) : Bool :=
  let cs := (unsign cs).2
  cs == "inf".toList || cs == "nan".toList || (decimal? cs).any (!·.overflows)

def digits? (count : Nat) (cs : List Char) : Option (Nat × List Char) :=
  if count ≤ cs.length then (Text.natOf? (cs.take count)).map (·, cs.drop count) else none

def after? (c : Char) : List Char → Option (List Char)
  | [] => none
  | d :: rest => if c = d then some rest else none

def isLeap (year : Nat) : Bool := year % 4 = 0 && (year % 100 ≠ 0 || year % 400 = 0)

def daysIn (year month : Nat) : Nat :=
  if month = 2 then (if isLeap year then 29 else 28)
  else if month = 4 ∨ month = 6 ∨ month = 9 ∨ month = 11 then 30
  else 31

def date? (cs : List Char) : Option (List Char) := do
  let (year, cs) ← digits? 4 cs
  let cs ← after? '-' cs
  let (month, cs) ← digits? 2 cs
  let cs ← after? '-' cs
  let (day, cs) ← digits? 2 cs
  if 1 ≤ month ∧ month ≤ 12 ∧ 1 ≤ day ∧ day ≤ daysIn year month then some cs else none

def hourMinute? (cs : List Char) : Option (List Char) := do
  let (hour, cs) ← digits? 2 cs
  let cs ← after? ':' cs
  let (minute, cs) ← digits? 2 cs
  if hour < 24 ∧ minute < 60 then some cs else none

def seconds? (cs : List Char) : Option (List Char) := do
  let (second, cs) ← digits? 2 cs
  if 60 < second then none
  else match cs with
    | '.' :: rest => if (rest.takeWhile isDigit).isEmpty then none else some (rest.dropWhile isDigit)
    | _ => some cs

/-- The time of a day; seconds may be left out. -/
def time? (cs : List Char) : Option (List Char) := do
  let cs ← hourMinute? cs
  match cs with
  | ':' :: rest => seconds? rest
  | _ => some cs

def offset? : List Char → Option (List Char)
  | [] => some []
  | c :: rest =>
    if c == 'Z' || c == 'z' then some rest
    else if c == '+' || c == '-' then hourMinute? rest
    else some (c :: rest)

def isDateMark (c : Char) : Bool := c == 'T' || c == 't' || c == ' '

def isDatetime (cs : List Char) : Bool :=
  match date? cs with
  | some [] => true
  | some (c :: rest) => isDateMark c && ((time? rest).bind offset?).any (·.isEmpty)
  | none => (time? cs).any (·.isEmpty)

def scalar? (word : List Char) : Option Value :=
  if word == "true".toList then some (.boolean true)
  else if word == "false".toList then some (.boolean false)
  else match integer? word with
    | some n => if isWithinBits n then some (.integer n) else none
    | none =>
      if isFloat word then some (.float (String.ofList word))
      else if isDatetime word then some (.datetime (String.ofList word))
      else none

end KeyScript.Toml
