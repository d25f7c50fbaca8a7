import KeyScript.Text.Basic
import KeyScript.Text.Digits

/-! Hosts that are numbers: IPv4 addresses, whose parts may be written in three bases,
and IPv6 addresses. -/
namespace KeyScript.Uri

/-! IPv4. -/

def octalDigit? (c : Char) : Option Nat := (Text.decimalDigit? c).filter (· < 8)

def partNumber? (part : List Char) : Option Nat :=
  match part with
  | [] => none
  | '0' :: 'x' :: digits => Text.numberOf? 16 Text.hexDigit? digits
  | '0' :: 'X' :: digits => Text.numberOf? 16 Text.hexDigit? digits
  | '0' :: digit :: digits => Text.numberOf? 8 octalDigit? (digit :: digits)
  | digits => Text.natOf? digits

/-- The parts of a host; a dot at its end does not part anything. -/
def parts (host : List Char) : List (List Char) :=
  let pieces := Text.pieces '.' host
  match pieces.reverse with
  | [] :: before => if before.isEmpty then pieces else before.reverse
  | _ => pieces

/-- A host whose last part looks like a number can only be an address. -/
def endsInNumber (host : List Char) : Bool :=
  match (parts host).getLast? with
  | none => false
  | some last =>
    !last.isEmpty && (last.all (fun c => (Text.decimalDigit? c).isSome) || (partNumber? last).isSome)

/-- The number of an address: each part is a byte, but the last has all bytes that are left. -/
def ipv4Sum? (places : Nat) : List Nat → Option Nat
  | [] => none
  | [last] => if last < Nat.pow 256 places then some last else none
  | n :: rest =>
    if places ≤ 1 ∨ 255 < n then none
    else (ipv4Sum? (places - 1) rest).map (n * Nat.pow 256 (places - 1) + ·)

def ipv4? (host : List Char) : Option Nat :=
  let parts := parts host
  if 4 < parts.length then none
  else match parts.mapM partNumber? with
    | some numbers => ipv4Sum? 4 numbers
    | none => none

def ipv4Text (n : Nat) : List Char :=
  ['.'].intercalate ([n / 0x1000000, n / 0x10000 % 256, n / 256 % 256, n % 256].map Text.decimal)

/-! IPv6. -/

/-- The pieces read so far, newest first, and how many of them stand before a gap. -/
structure Pieces where
  read : List Nat
  gap : Option Nat

/-- A gap takes up a piece at least. -/
def Pieces.size (p : Pieces) : Nat := p.read.length + (if p.gap.isSome then 1 else 0)

def Pieces.push (p : Pieces) (n : Nat) : Pieces := { p with read := n :: p.read }

def Pieces.finish? (p : Pieces) : Option (List Nat) :=
  let all := p.read.reverse
  match p.gap with
  | some before =>
    if p.size ≤ 8 then
      some (all.take before ++ List.replicate (8 - all.length) 0 ++ all.drop before)
    else none
  | none => if p.size = 8 then some all else none

/-- A number below 256 without needless zeros. -/
def octet? (cs : List Char) : Option Nat :=
  match cs with
  | '0' :: _ :: _ => none
  | cs => (Text.natOf? cs).filter (· < 256)

/-- The last two pieces, written as an IPv4 address. -/
def embedded? (cs : List Char) : Option (Nat × Nat) :=
  match (Text.pieces '.' cs).mapM octet? with
  | some [a, b, c, d] => some (a * 256 + b, c * 256 + d)
  | _ => none

def hexDigits (cs : List Char) : List Char := (cs.take 4).takeWhile fun c => (Text.hexDigit? c).isSome

def Pieces.run (p : Pieces) (cs : List Char) : Option (List Nat) :=
  match cs with
  | [] => p.finish?
  | ':' :: rest =>
    if p.size = 8 ∨ p.gap.isSome then none else run { p with gap := some p.read.length } rest
  | c :: more =>
    if p.size = 8 then none
    else
      let digits := hexDigits (c :: more)
      match digits, _left : (c :: more).drop digits.length with
      | [], _ => none
      | _, [] => (p.push ((Text.numberOf? 16 Text.hexDigit? digits).getD 0)).finish?
      | _, ':' :: [] => none
      | _, ':' :: next :: rest =>
        run (p.push ((Text.numberOf? 16 Text.hexDigit? digits).getD 0)) (next :: rest)
      | _, '.' :: _ =>
        if 6 < p.size then none
        else match embedded? (c :: more) with
          | some (high, low) => ((p.push high).push low).finish?
          | none => none
      | _, _ => none
termination_by cs.length
decreasing_by
  · simp
  · have cut := congrArg List.length _left
    simp only [List.length_drop, List.length_cons] at cut
    simp only [List.length_cons]
    omega

def ipv6? (cs : List Char) : Option (List Nat) :=
  match cs with
  | ':' :: ':' :: rest => Pieces.run ⟨[], some 0⟩ rest
  | ':' :: _ => none
  | [] => none
  | [_] => none
  | cs => Pieces.run ⟨[], none⟩ cs

def zeros (pieces : List Nat) : Nat := (pieces.takeWhile (· == 0)).length

/-- The first longest run of zeros: where it begins and how long it is. -/
def longestZeros (start : Nat) : List Nat → Nat × Nat
  | [] => (start, 0)
  | n :: rest =>
    let here := (start, zeros (n :: rest))
    let later := longestZeros (start + 1) rest
    if here.2 < later.2 then later else here

def ipv6Text (pieces : List Nat) : List Char :=
  let written := fun pieces : List Nat => [':'].intercalate (pieces.map (Text.hex 1))
  let (start, count) := longestZeros 0 pieces
  if count < 2 then written pieces
  else written (pieces.take start) ++ [':', ':'] ++ written (pieces.drop (start + count))

end KeyScript.Uri
