import KeyScript.Decimal.Shortest
import KeyScript.Text.Digits

/-! Ways to write a floating-point number: always positional, or with an exponent
when it is very large or very small. -/
namespace KeyScript.Decimal

/-- The digits with the point in its place; `places` digits at least behind it. -/
def positional (places : Nat) (d : Digits) : List Char :=
  let digits := Text.decimal d.digits
  let behind := d.exponent.natAbs
  if 0 ≤ d.exponent then
    let whole := if d.digits = 0 then digits else digits ++ List.replicate behind '0'
    if places = 0 then whole else whole ++ '.' :: List.replicate places '0'
  else
    let padded := List.replicate (behind + 1 - digits.length) '0' ++ digits
    let point := padded.length - behind
    padded.take point ++ '.' :: padded.drop point

structure Layout where
  /-- The least power of ten that is written out. -/
  least : Int
  /-- The first power of ten that is not. -/
  limit : Int
  /-- Whether a positive exponent has a sign. -/
  plus : Bool

def Digits.power (d : Digits) : Int := d.exponent + ((Text.decimal d.digits).length - 1 : Nat)

def scientific (layout : Layout) (d : Digits) : List Char :=
  match Text.decimal d.digits with
  | [] => []
  | c :: rest =>
    let sign := if layout.plus && 0 ≤ d.power then ['+'] else []
    (if rest.isEmpty then [c] else c :: '.' :: rest) ++ 'e' :: sign ++ Text.decimalInt d.power

def Digits.laid (layout : Layout) (d : Digits) : List Char :=
  if d.digits = 0 ∨ (layout.least ≤ d.power ∧ d.power < layout.limit) then positional 1 d
  else scientific layout d

def signed (negative : Bool) (cs : List Char) : String :=
  String.ofList (if negative then '-' :: cs else cs)

/-- A binary number by its shortest decimal. -/
def Binary.written (tie : Tie) (write : Digits → List Char) : Binary → String
  | .notANumber => "NaN"
  | .infinite negative => signed negative "inf".toList
  | .finite negative mantissa exponent => signed negative (write (shortest tie mantissa exponent))

/-- Never with an exponent, and no point in a whole number. -/
def Binary.plain : Binary → String := Binary.written .up (positional 0)

/-- Positional from a ten-thousandth up to below ten to the sixteenth, with a
digit behind the point; with an exponent otherwise. -/
def Binary.marked : Binary → String := Binary.written .up (Digits.laid ⟨-4, 16, false⟩)

end KeyScript.Decimal
