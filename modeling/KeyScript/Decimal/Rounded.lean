import KeyScript.Decimal.Shortest

/-! Rounding to binary numbers of sixty-four bits: the nearest one and, halfway
between two, the even one. All arithmetic is exact. -/
namespace KeyScript.Decimal

/-- The whole number nearest to `num / den`, a half going to the even one. -/
def roundedQuotient (num den : Nat) : Nat :=
  let below := num / den
  let twice := 2 * (num % den)
  if twice < den then below
  else if den < twice then below + 1
  else if below % 2 = 0 then below
  else below + 1

/-- A mantissa has at most this many bits. -/
def mantissaBits : Nat := 53

/-- The least and the greatest power of two that a mantissa is multiplied by. -/
def leastExponent : Int := -1074
def greatestExponent : Int := 971

def Ratio.unscaled (r : Ratio) (power : Int) : Ratio :=
  if power < 0 then ⟨r.num * Nat.pow 2 power.natAbs, r.den⟩
  else ⟨r.num, r.den * Nat.pow 2 power.natAbs⟩

/-- The power of two by which a positive ratio becomes a mantissa of all its bits,
or fewer if that power would be too small. -/
def Ratio.exponent (r : Ratio) : Int :=
  let guess : Int := (Nat.log2 r.num : Int) - Nat.log2 r.den - mantissaBits
  let scaled := r.unscaled guess
  let fitting := if 2 * mantissas ≤ scaled.num / scaled.den then guess + 1 else guess
  max fitting leastExponent

def Binary.nearest (negative : Bool) (r : Ratio) : Binary :=
  if r.num = 0 then .finite negative 0 leastExponent
  else
    let exponent := r.exponent
    let scaled := r.unscaled exponent
    let mantissa := roundedQuotient scaled.num scaled.den
    let (mantissa, exponent) :=
      if mantissa = 2 * mantissas then (mantissas, exponent + 1)
      else (mantissa, exponent)
    if greatestExponent < exponent then .infinite negative
    else .finite negative mantissa exponent

def Binary.isInfinite : Binary → Bool
  | .infinite _ => true
  | _ => false

/-- No number of this many decimal places in front of the point is infinite. -/
def finitePlaces : Int := 308

/-- Whether the nearest binary number is infinite. Powers far out of reach are not computed. -/
def Digits.overflows (d : Digits) : Bool :=
  let places := (Nat.toDigits 10 d.digits).length + d.exponent
  if d.digits = 0 ∨ places ≤ finitePlaces then false
  else if finitePlaces + 1 < places then true
  else (Binary.nearest false d.ratio).isInfinite

end KeyScript.Decimal
