/-! Characters and pieces of a text. A character is blank when it has the Unicode property
`White_Space`; trimming takes blank characters off the ends of a text. Comparison up to case
folds the letters `A` to `Z` and compares characters outside ASCII as they are. -/
namespace KeyScript.Text

/-- The twenty-five characters with the property `White_Space`. -/
def isBlank (c : Char) : Bool :=
  let n := c.toNat
  (9 ≤ n && n ≤ 13) || n == 0x20 || n == 0x85 || n == 0xA0 || n == 0x1680 ||
    (0x2000 ≤ n && n ≤ 0x200A) || n == 0x2028 || n == 0x2029 || n == 0x202F ||
    n == 0x205F || n == 0x3000

def dropBlank (cs : List Char) : List Char := cs.dropWhile isBlank

def trimStart (s : String) : String := String.ofList (dropBlank s.toList)

def trimmed (cs : List Char) : List Char := (dropBlank (dropBlank cs).reverse).reverse

def trim (s : String) : String := String.ofList (trimmed s.toList)

/-- A text with no character other than blank ones. -/
def isAllBlank (s : String) : Bool := s.toList.all isBlank

def fold (c : Char) : Char := c.toLower

def folded (s : String) : List Char := s.toList.map fold

def sameFolded (a b : String) : Bool := folded a == folded b

/-- `text` begins with `typed`, up to case. -/
def startsFolded (text typed : String) : Bool := (folded typed).isPrefixOf (folded text)

/-- The pieces between separators; there is one more piece than separators. -/
def pieces (separator : Char) : List Char → List (List Char)
  | [] => [[]]
  | c :: cs =>
    if c == separator then [] :: pieces separator cs
    else match pieces separator cs with
      | [] => [[c]]
      | piece :: rest => (c :: piece) :: rest

end KeyScript.Text
