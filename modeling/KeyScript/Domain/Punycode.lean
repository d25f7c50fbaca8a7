/-! Labels in the old alphabet. The characters outside it are written behind the others
and a dash, as the places where they go: numbers with digits of changing weight. -/
namespace KeyScript.Domain.Punycode

def alphabet : List Char := "abcdefghijklmnopqrstuvwxyz0123456789".toList

def digitChar (d : Nat) : Char := alphabet.getD d 'a'

def digit? (c : Char) : Option Nat := alphabet.findIdx? (· == c)

/-- A digit below this is the last one of its number. -/
def threshold (bias place : Nat) : Nat := min 26 (max 1 (place - bias))

theorem threshold_pos (bias place : Nat) : 0 < threshold bias place := by
  unfold threshold; omega

theorem threshold_le (bias place : Nat) : threshold bias place ≤ 26 := by
  unfold threshold; omega

/-- Divides until the rest is small, and counts the places. -/
def settle (delta place : Nat) : Nat :=
  if h : 455 < delta then settle (delta / 35) (place + 36)
  else place + 36 * delta / (delta + 38)
termination_by delta
decreasing_by exact Nat.div_lt_self (by omega) (by decide)

/-- The bias after a number, when there are `size` characters. -/
def adapt (delta size : Nat) (first : Bool) : Nat :=
  let delta := if first then delta / 700 else delta / 2
  settle (delta + delta / size) 0

def digits (bias place n : Nat) : List Char :=
  let t := threshold bias place
  if n < t then [digitChar n]
  else digitChar (t + (n - t) % (36 - t)) :: digits bias (place + 36) ((n - t) / (36 - t))
termination_by n
decreasing_by
  have low := threshold_pos bias place
  have high := threshold_le bias place
  exact Nat.lt_of_le_of_lt (Nat.div_le_self _ _) (by omega)

/-- Where the numbers read or written so far have led: to a character and the place
behind it. -/
structure Spot where
  code : Nat
  place : Nat
  bias : Nat
  first : Bool

namespace Spot

def start : Spot := ⟨0x80, 0, 72, true⟩

/-- The number that leads to a character at a place in a label of `size` characters: all
places of the characters between are passed over. -/
def distance (s : Spot) (size code place : Nat) : Nat := (code - s.code) * size + place - s.place

/-- The character that a number leads to. -/
def codeAt (s : Spot) (size delta : Nat) : Nat := s.code + (s.place + delta) / size

/-- The place that a number leads to. -/
def placeAt (s : Spot) (size delta : Nat) : Nat := (s.place + delta) % size

def next (s : Spot) (size delta : Nat) : Spot :=
  ⟨s.codeAt size delta, s.placeAt size delta + 1, adapt delta size s.first, false⟩

end Spot

/-! Writing. -/

def isOld (c : Char) : Bool := c.toNat < 0x80

/-- The other characters of a label, each with its place among those before it that are
not greater: the label is made up in this order. -/
def others (before : List Char) : List Char → List (Nat × Nat)
  | [] => []
  | c :: rest =>
    if isOld c then others (c :: before) rest
    else (c.toNat, before.countP (· ≤ c)) :: others (c :: before) rest

/-- The numbers of the other characters, in a label that is `size` characters long with
the first of them. -/
def numbers (s : Spot) (size : Nat) : List (Nat × Nat) → List Char
  | [] => []
  | (code, place) :: rest =>
    let delta := s.distance size code place
    digits s.bias 36 delta ++ numbers (s.next size delta) (size + 1) rest

def encode (label : List Char) : List Char :=
  let old := label.filter isOld
  let sorted := (others [] label).mergeSort fun a b => a.1 ≤ b.1
  (if old.isEmpty then [] else old ++ ['-']) ++ numbers .start (old.length + 1) sorted

/-! Reading. -/

/-- A label that is being read: the number whose digits are being read, the weight of the
next one and its place. -/
structure Reading where
  out : List Char
  spot : Spot
  delta : Nat
  weight : Nat
  place : Nat

def Reading.fresh (out : List Char) (spot : Spot) : Reading := ⟨out, spot, 0, 1, 36⟩

/-- Takes the last digit of a number, which tells a character and its place. -/
def Reading.finish (r : Reading) (delta : Nat) : Option Reading :=
  let size := r.out.length + 1
  let code := r.spot.codeAt size delta
  if code.isValidChar then
    some (.fresh (r.out.insertIdx (r.spot.placeAt size delta) (Char.ofNat code)) (r.spot.next size delta))
  else none

def Reading.run (r : Reading) : List Char → Option (List Char)
  | [] => if r.weight = 1 then some r.out else none
  | c :: rest =>
    match digit? c with
    | none => none
    | some d =>
      let delta := r.delta + d * r.weight
      let t := threshold r.spot.bias r.place
      if d < t then
        match r.finish delta with
        | some r => run r rest
        | none => none
      else run { r with delta, weight := r.weight * (36 - t), place := r.place + 36 } rest

/-- The characters before the last dash, and those behind it. -/
def split (label : List Char) : List Char × List Char :=
  let behind := (label.reverse.takeWhile (· != '-')).reverse
  if behind.length = label.length ∨ behind.length + 1 = label.length then ([], label)
  else (label.take (label.length - behind.length - 1), behind)

def decode? (label : List Char) : Option (List Char) :=
  let (old, numbers) := split label
  (Reading.fresh old .start).run numbers

end KeyScript.Domain.Punycode
