import KeyScript.Json.Number

/-! Reading JSON. Readers take the remaining characters and give back a value and
what follows it, or what is wrong. Values one in another use up depth, and also fuel,
of which a text needs no more than twice as much as it has characters. -/
namespace KeyScript.Json

def isSpace (c : Char) : Bool := c == ' ' || c == '\n' || c == '\r' || c == '\t'

def skipSpace (cs : List Char) : List Char := cs.dropWhile isSpace

/-- What follows `word`, if the characters begin with it. -/
def afterWord (word : List Char) (cs : List Char) : Except Misread (List Char) :=
  match word, cs with
  | [], rest => .ok rest
  | _, [] => .error ⟨.endInValue, [], 0⟩
  | c :: word, d :: rest => if c = d then afterWord word rest else .error ⟨.word, d :: rest, 1⟩

/-- The number written by the next four hexadecimal digits. -/
def unit (cs : List Char) : Except Misread (Nat × List Char) :=
  if byteSize (cs.take 4) < 4 then .error ⟨.endInString, [], 0⟩
  else match Text.numberOf? 16 Text.hexDigit? (cs.take 4) with
    | some n => .ok (n, cs.drop 4)
    | none => .error ⟨.escape, cs, 4⟩

def isHighSurrogate (n : Nat) : Bool := 0xD800 ≤ n && n < 0xDC00

def isLowSurrogate (n : Nat) : Bool := 0xDC00 ≤ n && n < 0xE000

/-- What follows `c`, which the second half of a pair begins with. -/
def pairMark (c : Char) : List Char → Except Misread (List Char)
  | [] => .error ⟨.endInString, [], 0⟩
  | d :: rest => if c = d then .ok rest else .error ⟨.pairEnd, d :: rest, 1⟩

/-- The character behind `\u`: one unit, or a pair of surrogates. -/
def escapedUnit (cs : List Char) : Except Misread (Char × List Char) := do
  let (high, rest) ← unit cs
  if isLowSurrogate high then .error ⟨.surrogate, rest, 0⟩
  else if isHighSurrogate high then
    let rest ← pairMark '\\' rest
    let rest ← pairMark 'u' rest
    let (low, rest) ← unit rest
    if isLowSurrogate low then
      .ok (Char.ofNat (0x10000 + (high - 0xD800) * 0x400 + (low - 0xDC00)), rest)
    else .error ⟨.surrogate, rest, 0⟩
  else .ok (Char.ofNat high, rest)

def escaped : List Char → Except Misread (Char × List Char)
  | [] => .error ⟨.endInString, [], 0⟩
  | '"' :: rest => .ok ('"', rest)
  | '\\' :: rest => .ok ('\\', rest)
  | '/' :: rest => .ok ('/', rest)
  | 'b' :: rest => .ok (Char.ofNat 8, rest)
  | 'f' :: rest => .ok (Char.ofNat 12, rest)
  | 'n' :: rest => .ok ('\n', rest)
  | 'r' :: rest => .ok ('\r', rest)
  | 't' :: rest => .ok ('\t', rest)
  | 'u' :: rest => escapedUnit rest
  | cs => .error ⟨.escape, cs, 1⟩

/-- Characters of a string up to its closing quote; `read` holds those before, newest first. -/
def stringBody : Nat → List Char → List Char → Except Misread (String × List Char)
  | 0, _, _ => .error ⟨.endInString, [], 0⟩
  | _ + 1, _, [] => .error ⟨.endInString, [], 0⟩
  | _ + 1, read, '"' :: rest => .ok (String.ofList read.reverse, rest)
  | fuel + 1, read, '\\' :: rest =>
    match escaped rest with
    | .ok (c, rest) => stringBody fuel (c :: read) rest
    | .error misread => .error misread
  | fuel + 1, read, c :: rest =>
    if c.toNat < 32 then .error ⟨.control, c :: rest, 1⟩ else stringBody fuel (c :: read) rest

/-- The colon between the name of a field and its value. -/
def afterColon (cs : List Char) : Except Misread (List Char) :=
  match skipSpace cs with
  | [] => .error ⟨.endInObject, [], 1⟩
  | ':' :: rest => .ok rest
  | rest => .error ⟨.colon, rest, 1⟩

def name (fuel : Nat) (cs : List Char) : Except Misread (String × List Char) :=
  match cs with
  | '"' :: rest => stringBody fuel [] rest
  | _ => .error ⟨.key, cs, 1⟩

mutual

def value (depth : Nat) : Nat → List Char → Except Misread (Json × List Char)
  | 0, _ => .error ⟨.endInValue, [], 1⟩
  | fuel + 1, cs =>
    match skipSpace cs with
    | [] => .error ⟨.endInValue, [], 1⟩
    | '"' :: rest => (stringBody fuel [] rest).map fun (s, rest) => (.string s, rest)
    | '[' :: rest =>
      if depth = 0 then .error ⟨.depth, '[' :: rest, 1⟩
      else match skipSpace rest with
        | [] => .error ⟨.endInList, [], 1⟩
        | ']' :: rest => .ok (.array [], rest)
        | rest => (items (depth - 1) fuel rest).map fun (items, rest) => (.array items, rest)
    | '\x7b' :: rest =>
      if depth = 0 then .error ⟨.depth, '\x7b' :: rest, 1⟩
      else match skipSpace rest with
        | [] => .error ⟨.endInObject, [], 1⟩
        | '\x7d' :: rest => .ok (.object [], rest)
        | rest => (fields (depth - 1) fuel rest).map fun (fields, rest) => (.object fields, rest)
    | 'n' :: rest => (afterWord "ull".toList rest).map (.null, ·)
    | 't' :: rest => (afterWord "rue".toList rest).map (.bool true, ·)
    | 'f' :: rest => (afterWord "alse".toList rest).map (.bool false, ·)
    | '-' :: rest => unsigned true rest
    | c :: rest =>
      if isDigit c then unsigned false (c :: rest) else .error ⟨.value, c :: rest, 1⟩

/-- Items of an array up to its closing bracket. -/
def items (depth : Nat) : Nat → List Char → Except Misread (List Json × List Char)
  | 0, _ => .error ⟨.endInList, [], 1⟩
  | fuel + 1, cs => do
    let (item, rest) ← value depth fuel cs
    match skipSpace rest with
    | [] => .error ⟨.endInList, [], 1⟩
    | ']' :: rest => .ok ([item], rest)
    | ',' :: rest =>
      match skipSpace rest with
      | [] => .error ⟨.endInValue, [], 1⟩
      | ']' :: rest => .error ⟨.comma, ']' :: rest, 1⟩
      | rest =>
        let (more, rest) ← items depth fuel rest
        .ok (item :: more, rest)
    | rest => .error ⟨.listEnd, rest, 1⟩

/-- Fields of an object up to its closing brace. -/
def fields (depth : Nat) : Nat → List Char → Except Misread (List (String × Json) × List Char)
  | 0, _ => .error ⟨.endInObject, [], 1⟩
  | fuel + 1, cs => do
    let (key, rest) ← name fuel cs
    let rest ← afterColon rest
    let (field, rest) ← value depth fuel rest
    match skipSpace rest with
    | [] => .error ⟨.endInObject, [], 1⟩
    | '\x7d' :: rest => .ok ([(key, field)], rest)
    | ',' :: rest =>
      match skipSpace rest with
      | [] => .error ⟨.endInValue, [], 1⟩
      | '\x7d' :: rest => .error ⟨.comma, '\x7d' :: rest, 1⟩
      | rest =>
        let (more, rest) ← fields depth fuel rest
        .ok ((key, field) :: more, rest)
    | rest => .error ⟨.objectEnd, rest, 1⟩

end

def depthLimit : Nat := 127

/-- The value that the text begins with, its fields as they stand, and what follows. -/
def start (text : String) : Except Misread (Json × List Char) :=
  let cs := text.toList
  value depthLimit (2 * cs.length + 4) cs

/-- Nothing but blanks may follow the value of a text. -/
def finish (rest : List Char) : Except Misread Unit :=
  match skipSpace rest with
  | [] => .ok ()
  | rest => .error ⟨.trailing, rest, 1⟩

def parse? (text : String) : Option Json :=
  match start text with
  | .ok (value, rest) => if (skipSpace rest).isEmpty then some value.settled else none
  | .error _ => none

end KeyScript.Json
