import KeyScript.Toml.Scalar
import KeyScript.Toml.Tree

/-! Reading TOML. Readers take the remaining characters and give back a value and
what follows it. They have fuel, of which a text needs no more than twice as much as
it has characters. -/
namespace KeyScript.Toml

def isSpace (c : Char) : Bool := c == ' ' || c == '\t'

def skipSpace (cs : List Char) : List Char := cs.dropWhile isSpace

/-- Control characters, of which only the tab may stand in a text or a comment. -/
def isControl (c : Char) : Bool := (c.toNat < 32 && c != '\t') || c.toNat == 127

/-- A line end and what follows it, if one comes next. -/
def lineEndAnd? : List Char → Option (List Char × List Char)
  | '\n' :: rest => some (['\n'], rest)
  | '\r' :: '\n' :: rest => some (['\r', '\n'], rest)
  | _ => none

def afterLineEnd? (cs : List Char) : Option (List Char) := (lineEndAnd? cs).map Prod.snd

/-- A comment up to the end of its line. -/
def skipComment? : List Char → Option (List Char)
  | '#' :: rest =>
    let rest := rest.dropWhile (!isControl ·)
    if rest.isEmpty || (afterLineEnd? rest).isSome then some rest else none
  | cs => some cs

/-- The end of a line: blanks and a comment, and then a line end or nothing. -/
def lineEnd? (cs : List Char) : Option (List Char) := do
  let cs ← skipComment? (skipSpace cs)
  if cs.isEmpty then some [] else afterLineEnd? cs

/-- Skips blanks, comments and line ends between the parts of an array. -/
def skipLines? : Nat → List Char → Option (List Char)
  | 0, _ => none
  | fuel + 1, cs => do
    let cs ← skipComment? (skipSpace cs)
    match afterLineEnd? cs with
    | some rest => skipLines? fuel rest
    | none => some cs

def codePoint? (count : Nat) (cs : List Char) : Option (Char × List Char) := do
  if (cs.take count).length < count then none
  else
    let n ← Text.numberOf? 16 Text.hexDigit? (cs.take count)
    if n < 0xD800 ∨ (0xDFFF < n ∧ n ≤ 0x10FFFF) then some (Char.ofNat n, cs.drop count) else none

def escaped? : List Char → Option (Char × List Char)
  | 'b' :: rest => some (Char.ofNat 8, rest)
  | 'e' :: rest => some (Char.ofNat 27, rest)
  | 't' :: rest => some ('\t', rest)
  | 'n' :: rest => some ('\n', rest)
  | 'f' :: rest => some (Char.ofNat 12, rest)
  | 'r' :: rest => some ('\r', rest)
  | '"' :: rest => some ('"', rest)
  | '\\' :: rest => some ('\\', rest)
  | 'x' :: rest => codePoint? 2 rest
  | 'u' :: rest => codePoint? 4 rest
  | 'U' :: rest => codePoint? 8 rest
  | _ => none

/-- A text in double quotes, from behind the first one; `read` is newest first. -/
def basic? : Nat → List Char → List Char → Option (List Char × List Char)
  | 0, _, _ => none
  | _ + 1, _, [] => none
  | _ + 1, read, '"' :: rest => some (read.reverse, rest)
  | fuel + 1, read, '\\' :: rest => do
    let (c, rest) ← escaped? rest
    basic? fuel (c :: read) rest
  | fuel + 1, read, c :: rest => if isControl c then none else basic? fuel (c :: read) rest

/-- A text in single quotes, from behind the first one. -/
def literal? (cs : List Char) : Option (List Char × List Char) :=
  let body := cs.takeWhile fun c => c != '\'' && !isControl c
  match cs.drop body.length with
  | '\'' :: rest => some (body, rest)
  | _ => none

/-- Three quotes close a text; up to two more in front of them belong to it. -/
def closing? (quote : Char) (cs : List Char) : Option (List Char × List Char) :=
  let run := (cs.takeWhile (· == quote)).length
  if run < 3 then none
  else
    let kept := min (run - 3) 2
    some (List.replicate kept quote, cs.drop (kept + 3))

def skipBlankLines : List Char → List Char
  | [] => []
  | '\r' :: '\n' :: rest => skipBlankLines rest
  | c :: rest => if isSpace c || c == '\n' then skipBlankLines rest else c :: rest

/-- Behind a backslash at the end of a line: all blanks and line ends are skipped. -/
def continued? (cs : List Char) : Option (List Char) :=
  (afterLineEnd? (skipSpace cs)).map skipBlankLines

/-- A text of several lines in double quotes. Line ends are kept as they are written. -/
def basicLines? : Nat → List Char → List Char → Option (List Char × List Char)
  | 0, _, _ => none
  | fuel + 1, read, cs =>
    match closing? '"' cs with
    | some (kept, rest) => some (read.reverse ++ kept, rest)
    | none =>
      match lineEndAnd? cs with
      | some (ending, rest) => basicLines? fuel (ending.reverse ++ read) rest
      | none =>
        match cs with
        | [] => none
        | '\\' :: rest =>
          match continued? rest with
          | some rest => basicLines? fuel read rest
          | none => do
            let (c, rest) ← escaped? rest
            basicLines? fuel (c :: read) rest
        | c :: rest => if isControl c then none else basicLines? fuel (c :: read) rest

/-- A text of several lines in single quotes. -/
def literalLines? : Nat → List Char → List Char → Option (List Char × List Char)
  | 0, _, _ => none
  | fuel + 1, read, cs =>
    match closing? '\'' cs with
    | some (kept, rest) => some (read.reverse ++ kept, rest)
    | none =>
      match lineEndAnd? cs with
      | some (ending, rest) => literalLines? fuel (ending.reverse ++ read) rest
      | none =>
        match cs with
        | [] => none
        | c :: rest => if isControl c then none else literalLines? fuel (c :: read) rest

def skipLineEnd (cs : List Char) : List Char := (afterLineEnd? cs).getD cs

def quoted? (fuel : Nat) : List Char → Option (String × List Char)
  | '"' :: rest => (basic? fuel [] rest).map fun (s, rest) => (String.ofList s, rest)
  | '\'' :: rest => (literal? rest).map fun (s, rest) => (String.ofList s, rest)
  | _ => none

/-- A quoted text, of one line or of several. -/
def text? (fuel : Nat) : List Char → Option (String × List Char)
  | '"' :: '"' :: '"' :: rest =>
    (basicLines? fuel [] (skipLineEnd rest)).map fun (s, rest) => (String.ofList s, rest)
  | '\'' :: '\'' :: '\'' :: rest =>
    (literalLines? fuel [] (skipLineEnd rest)).map fun (s, rest) => (String.ofList s, rest)
  | cs => quoted? fuel cs

def isBareKey (c : Char) : Bool :=
  ('a' ≤ c && c ≤ 'z') || ('A' ≤ c && c ≤ 'Z') || isDigit c || c == '_' || c == '-'

def simpleKey? (fuel : Nat) (cs : List Char) : Option (String × List Char) :=
  match cs.takeWhile isBareKey with
  | [] => quoted? fuel cs
  | key => some (String.ofList key, cs.dropWhile isBareKey)

/-- A key, or several with points between. -/
def key? : Nat → List Char → Option (List String × List Char)
  | 0, _ => none
  | fuel + 1, cs => do
    let (key, rest) ← simpleKey? fuel (skipSpace cs)
    match skipSpace rest with
    | '.' :: rest =>
      let (path, rest) ← key? fuel rest
      some (key :: path, rest)
    | rest => some ([key], rest)

def depthLimit : Nat := 80

def path? (fuel : Nat) (cs : List Char) : Option (List String × List Char) :=
  (key? fuel cs).filter fun (path, _) => path.length ≤ depthLimit

def endsScalar (c : Char) : Bool :=
  isSpace c || c == '\n' || c == '\r' || c == ',' || c == '#' || c == ']' || c == '\x7d'

/-- A time may follow a date after one space. -/
def scalarWord (cs : List Char) : List Char × List Char :=
  let word := cs.takeWhile (!endsScalar ·)
  let rest := cs.drop word.length
  match date? word, rest with
  | some [], ' ' :: more =>
    let time := more.takeWhile (!endsScalar ·)
    if (hourMinute? time).isSome then (word ++ ' ' :: time, more.drop time.length) else (word, rest)
  | _, _ => (word, rest)

mutual

/-- A value, with `depth` more inside one another. -/
def value? (depth : Nat) : Nat → List Char → Option (Value × List Char)
  | 0, _ => none
  | fuel + 1, cs =>
    match cs with
    | '"' :: _ => (text? fuel cs).map fun (s, rest) => (.string s, rest)
    | '\'' :: _ => (text? fuel cs).map fun (s, rest) => (.string s, rest)
    | '[' :: rest =>
      if depth = 0 then none
      else (items? (depth - 1) fuel rest).map fun (items, rest) => (.array items, rest)
    | '\x7b' :: rest =>
      if depth = 0 then none
      else do
        let (entries, rest) ← inlineEntries? (depth - 1) fuel rest
        let table ← inlineTable? entries
        some (table, rest)
    | _ =>
      let (word, rest) := scalarWord cs
      (scalar? word).map (·, rest)

/-- Items of an array up to its closing bracket; a comma may stand in front of it. -/
def items? (depth : Nat) : Nat → List Char → Option (List Value × List Char)
  | 0, _ => none
  | fuel + 1, cs => do
    let cs ← skipLines? fuel cs
    match cs with
    | ']' :: rest => some ([], rest)
    | _ =>
      let (item, rest) ← value? depth fuel cs
      let rest ← skipLines? fuel rest
      match rest with
      | ',' :: rest =>
        let (items, rest) ← items? depth fuel rest
        some (item :: items, rest)
      | ']' :: rest => some ([item], rest)
      | _ => none

/-- Entries of a table in braces; a comma may stand in front of the closing one, and line
ends around each sign. -/
def inlineEntries? (depth : Nat) : Nat → List Char → Option (List (List String × Value) × List Char)
  | 0, _ => none
  | fuel + 1, cs => do
    let cs ← skipLines? fuel cs
    match cs with
    | '\x7d' :: rest => some ([], rest)
    | _ =>
      let (path, rest) ← path? fuel cs
      let rest ← skipLines? fuel rest
      let rest ← after? '=' rest
      let rest ← skipLines? fuel rest
      let (value, rest) ← value? depth fuel rest
      let rest ← skipLines? fuel rest
      match rest with
      | ',' :: rest =>
        let (entries, rest) ← inlineEntries? depth fuel rest
        some ((path, value) :: entries, rest)
      | '\x7d' :: rest => some ([(path, value)], rest)
      | _ => none

end

/-- One line, from its first character that is not blank. -/
def line? (fuel : Nat) : List Char → Option (Line × List Char)
  | '[' :: '[' :: rest => do
    let (path, rest) ← path? fuel rest
    let rest ← after? ']' rest
    let rest ← after? ']' rest
    let rest ← lineEnd? rest
    some (.itemHeader path, rest)
  | '[' :: rest => do
    let (path, rest) ← path? fuel rest
    let rest ← after? ']' rest
    let rest ← lineEnd? rest
    some (.header path, rest)
  | cs => do
    let (path, rest) ← path? fuel cs
    let rest ← after? '=' rest
    let (value, rest) ← value? depthLimit fuel (skipSpace rest)
    let rest ← lineEnd? rest
    some (.entry path value, rest)

def lines? : Nat → List Char → Option (List Line)
  | 0, _ => none
  | fuel + 1, cs => do
    let cs ← skipLines? fuel cs
    if cs.isEmpty then some []
    else
      let (line, rest) ← line? fuel cs
      let lines ← lines? fuel rest
      some (line :: lines)

/-- A mark that some editors put in front of a text. -/
def skipByteOrderMark : List Char → List Char
  | [] => []
  | c :: rest => if c.toNat = 0xFEFF then rest else c :: rest

def parse? (text : String) : Option (List (String × Value)) := do
  let cs := skipByteOrderMark text.toList
  let lines ← lines? (2 * cs.length + 4) cs
  build? lines

end KeyScript.Toml
