import KeyScript.Text.Digits

/-! What is wrong with a text that is no JSON, and where. -/
namespace KeyScript.Json

inductive Flaw where
  | endInList
  | endInObject
  | endInString
  | endInValue
  | colon
  | listEnd
  | objectEnd
  | word
  | value
  | escape
  | number
  | range
  | control
  | key
  | surrogate
  | comma
  | trailing
  | pairEnd
  | depth
  deriving DecidableEq

def Flaw.text : Flaw → String
  | endInList => "EOF while parsing a list"
  | endInObject => "EOF while parsing an object"
  | endInString => "EOF while parsing a string"
  | endInValue => "EOF while parsing a value"
  | colon => "expected `:`"
  | listEnd => "expected `,` or `]`"
  | objectEnd => "expected `,` or `\x7d`"
  | word => "expected ident"
  | value => "expected value"
  | escape => "invalid escape"
  | number => "invalid number"
  | range => "number out of range"
  | control => "control character (\\u0000-\\u001F) found while parsing a string"
  | key => "key must be a string"
  | surrogate => "lone leading surrogate in hex escape"
  | comma => "trailing comma"
  | trailing => "trailing characters"
  | pairEnd => "unexpected end of hex escape"
  | depth => "recursion limit exceeded"

/-- A flaw, the characters that were still to be read, and how many of their bytes
were looked at. -/
structure Misread where
  flaw : Flaw
  rest : List Char
  seen : Nat

def byteSize (cs : List Char) : Nat := cs.foldl (fun n c => n + c.utf8Size) 0

/-- The bytes in front of a misreading of `text`, those looked at among them. -/
def Misread.offset (m : Misread) (text : List Char) : Nat :=
  min (byteSize text) (byteSize text - byteSize m.rest + m.seen)

/-- The line and the column, in bytes, behind the first `offset` bytes. -/
def place (offset : Nat) (text : List Char) : Nat × Nat :=
  go 0 (1, 0) text
where
  go (read : Nat) (here : Nat × Nat) : List Char → Nat × Nat
    | [] => here
    | c :: rest =>
      if offset ≤ read then here
      else if offset < read + c.utf8Size then (here.1, here.2 + (offset - read))
      else go (read + c.utf8Size) (if c = '\n' then (here.1 + 1, 0) else (here.1, here.2 + c.utf8Size)) rest

def Misread.message (m : Misread) (text : String) : String :=
  let (line, column) := place (m.offset text.toList) text.toList
  m.flaw.text ++ " at line " ++ String.ofList (Text.decimal line) ++ " column " ++
    String.ofList (Text.decimal column)

end KeyScript.Json
