/-! UTF-8. Decoding reads one byte at a time; each longest beginning of a
character that cannot be continued stands for one unreadable place. -/
namespace KeyScript.Text

def utf8 (s : String) : List UInt8 := s.toList.flatMap String.utf8EncodeChar

/-- A character of which some bytes are still owed. The next one must lie between `low` and `high`. -/
structure Partial where
  owed : Nat
  low : Nat
  high : Nat
  value : Nat

/-- What a first byte outside ASCII announces. -/
def lead? (byte : Nat) : Option Partial :=
  if 0xC2 ≤ byte ∧ byte ≤ 0xDF then some ⟨1, 0x80, 0xBF, byte - 0xC0⟩
  else if byte = 0xE0 then some ⟨2, 0xA0, 0xBF, 0⟩
  else if byte = 0xED then some ⟨2, 0x80, 0x9F, 13⟩
  else if 0xE1 ≤ byte ∧ byte ≤ 0xEF then some ⟨2, 0x80, 0xBF, byte - 0xE0⟩
  else if byte = 0xF0 then some ⟨3, 0x90, 0xBF, 0⟩
  else if 0xF1 ≤ byte ∧ byte ≤ 0xF3 then some ⟨3, 0x80, 0xBF, byte - 0xF0⟩
  else if byte = 0xF4 then some ⟨3, 0x80, 0x8F, 4⟩
  else none

/-- A byte at the start of a character: what it yields, and what it leaves open. -/
def startByte (byte : Nat) : List (Option Char) × Option Partial :=
  if byte < 0x80 then ([some (Char.ofNat byte)], none)
  else match lead? byte with
    | some begun => ([], some begun)
    | none => ([none], none)

/-- One byte: what it yields, and what it leaves open. -/
def readByte (open? : Option Partial) (byte : Nat) : List (Option Char) × Option Partial :=
  match open? with
  | none => startByte byte
  | some p =>
    if p.low ≤ byte ∧ byte ≤ p.high then
      let value := p.value * 64 + (byte - 0x80)
      if p.owed ≤ 1 then ([some (Char.ofNat value)], none)
      else ([], some ⟨p.owed - 1, 0x80, 0xBF, value⟩)
    else
      let (read, left) := startByte byte
      (none :: read, left)

def decodeFrom : Option Partial → List UInt8 → List (Option Char)
  | none, [] => []
  | some _, [] => [none]
  | open?, byte :: rest =>
    let (read, left) := readByte open? byte.toNat
    read ++ decodeFrom left rest

def decode (bytes : List UInt8) : List (Option Char) := decodeFrom none bytes

def ofUtf8? (bytes : List UInt8) : Option String :=
  let read := decode bytes
  if read.all (·.isSome) then some (String.ofList (read.filterMap id)) else none

/-- The text with U+FFFD for each unreadable place. -/
def ofUtf8Lossy (bytes : List UInt8) : String :=
  String.ofList ((decode bytes).map (·.getD (Char.ofNat 0xFFFD)))

end KeyScript.Text
