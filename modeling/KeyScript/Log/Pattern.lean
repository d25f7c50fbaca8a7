import KeyScript.Text.Basic
import KeyScript.Text.Digits
import KeyScript.Text.Letter

/-! Patterns for the values of details. A pattern is read to know whether it can be used;
what it fits is not asked here. It stands between signs that it cannot hold itself, so
that it has no closing brace and no number of repetitions. -/
namespace KeyScript.Log.Pattern

structure Modes where
  /-- Letters stand for themselves in either case. -/
  caseless : Bool
  /-- A pattern is about characters, not about bytes. -/
  unicode : Bool
  spaced : Bool

def Modes.usual : Modes := ⟨false, true, false⟩

def Modes.set (m : Modes) (letter : Char) (isOn : Bool) : Modes :=
  match letter with
  | 'i' => { m with caseless := isOn }
  | 'u' => { m with unicode := isOn }
  | 'x' => { m with spaced := isOn }
  | _ => m

/-- The other case of a character is not known; in bytes only the old alphabet is written. -/
def Modes.admits (m : Modes) (c : Char) : Bool :=
  if m.unicode then !m.caseless else c.toNat < 0x80

def skipSpace (inComment : Bool) : List Char → List Char
  | [] => []
  | c :: rest =>
    if inComment then skipSpace (c != '\n') rest
    else if Text.isBlank c then skipSpace false rest
    else if c == '#' then skipSpace true rest
    else c :: rest

def Modes.skip (m : Modes) (cs : List Char) : List Char := if m.spaced then skipSpace false cs else cs

inductive Item where
  | literal (c : Char)
  | edge
  | wordEdge
  | kind (isOther : Bool)

def isSign (c : Char) : Bool := "\\.+*?()|[]\x7b\x7d^$#&-~".toList.contains c

/-- Every sign may follow a backslash, and so may the other characters of the old alphabet
that are no letters, digits or brackets of words. -/
def mayBeMarked (c : Char) : Bool :=
  isSign c || (c.toNat < 0x80 && !c.isAlphanum && c != '<' && c != '>')

def hexDigits? (m : Modes) : Nat → Nat → List Char → Option (Nat × List Char)
  | 0, n, cs => some (n, cs)
  | count + 1, n, cs =>
    match m.skip cs with
    | [] => none
    | c :: rest =>
      match Text.hexDigit? c with
      | some d => hexDigits? m count (n * 16 + d) rest
      | none => none

def hexItem? (m : Modes) (count : Nat) (cs : List Char) : Option (Item × List Char) :=
  match hexDigits? m count 0 cs with
  | some (n, rest) => if n.isValidChar then some (.literal (Char.ofNat n), rest) else none
  | none => none

/-- What follows a backslash. Characters cannot be asked for by their properties, nor by
what a group has fitted. -/
def escaped? (m : Modes) : List Char → Option (Item × List Char)
  | [] => none
  | c :: rest =>
    if mayBeMarked c then some (.literal c, rest)
    else if "aftnrv".toList.contains c then some (.literal ' ', rest)
    else if "Az".toList.contains c then some (.edge, rest)
    else if "bB<>".toList.contains c then some (.wordEdge, rest)
    else if "dsw".toList.contains c then some (.kind false, rest)
    else if "DSW".toList.contains c then some (.kind true, rest)
    else if c == 'x' then hexItem? m 2 rest
    else if c == 'u' then hexItem? m 4 rest
    else if c == 'U' then hexItem? m 8 rest
    else none

structure Row where
  size : Nat
  /-- How deep the deepest of them is. -/
  depth : Nat
  /-- How deep the last one is, if it can be repeated. -/
  last : Option Nat

namespace Row

def empty : Row := ⟨0, 0, none⟩

def push (r : Row) (depth : Nat) : Row := ⟨r.size + 1, max r.depth depth, some depth⟩

def pushModes (r : Row) : Row := ⟨r.size + 1, r.depth, none⟩

def repeated? (r : Row) : Option Row :=
  r.last.map fun depth => ⟨r.size, max r.depth (depth + 1), some (depth + 1)⟩

/-- A row of several items is one level above them. -/
def level (r : Row) : Nat := if r.size ≤ 1 then r.depth else r.depth + 1

end Row

/-! Sets of characters, in brackets. -/

/-- A set as far as it has been read: those before the last sign between sets, and the
items behind it. -/
structure CharSet where
  before : Option Nat
  row : Row

namespace CharSet

def level (s : CharSet) : Nat :=
  match s.before with
  | none => s.row.level
  | some depth => max depth s.row.level + 1

def push (s : CharSet) (depth : Nat) : CharSet := { s with row := s.row.push depth }

def cut (s : CharSet) : CharSet := ⟨some s.level, .empty⟩

end CharSet

def setNames : List String :=
  ["alnum", "alpha", "ascii", "blank", "cntrl", "digit", "graph", "lower", "print", "punct",
    "space", "upper", "word", "xdigit"]

/-- A set by its name, from behind its first bracket: whether all others are meant, and
what follows. -/
def named? (cs : List Char) : Option (Bool × List Char) :=
  match cs with
  | ':' :: rest =>
    let isOther := rest.head? == some '^'
    let rest := if isOther then rest.drop 1 else rest
    match rest.dropWhile (· != ':') with
    | ':' :: ']' :: after =>
      if setNames.contains (String.ofList (rest.takeWhile (· != ':'))) then some (isOther, after)
      else none
    | _ => none
  | _ => none

def leadingDashes (m : Modes) : Nat → CharSet → List Char → CharSet × List Char
  | fuel + 1, s, '-' :: rest => leadingDashes m fuel (s.push 0) (m.skip rest)
  | _, s, cs => (s, cs)

/-- The beginning of a set, from behind its bracket. In bytes, the characters outside of a
set are none. A closing bracket that comes first stands for itself. -/
def opened? (m : Modes) (cs : List Char) : Option (CharSet × List Char) :=
  let cs := m.skip cs
  let isOther := cs.head? == some '^'
  if isOther && !m.unicode then none
  else
    let cs := if isOther then m.skip (cs.drop 1) else cs
    let (s, cs) := leadingDashes m cs.length ⟨none, .empty⟩ cs
    match s.row.size, cs with
    | 0, ']' :: rest => some (s.push 0, m.skip rest)
    | _, cs => some (s, cs)

def setItem? (m : Modes) : List Char → Option (Item × List Char)
  | [] => none
  | '\\' :: rest => escaped? m rest
  | c :: rest => some (.literal c, rest)

def setLiteral? (m : Modes) : Item → Option Char
  | .literal c => if m.unicode || c.toNat < 0x80 then some c else none
  | _ => none

def fitsSet (m : Modes) : Item → Bool
  | .literal c => m.unicode || c.toNat < 0x80
  | .kind isOther => !m.unicode && !isOther
  | _ => false

def setRange? (m : Modes) (cs : List Char) : Option (List Char) :=
  match setItem? m cs with
  | none => none
  | some (item, rest) =>
    let alone := if fitsSet m item then some (m.skip rest) else none
    match m.skip rest with
    | '-' :: more =>
      match m.skip more with
      | ']' :: _ => alone
      | '-' :: _ => alone
      | more =>
        match setItem? m more with
        | none => none
        | some (upper, rest) =>
          match setLiteral? m item, setLiteral? m upper with
          | some low, some high => if low ≤ high then some rest else none
          | _, _ => none
    | _ => alone

/-- The items of sets that stand one in another, up to the closing bracket of the
outermost one; `outer` holds those that are open, innermost first. -/
def sets? (m : Modes) : Nat → List CharSet → CharSet → List Char → Option (Nat × List Char)
  | 0, _, _, _ => none
  | fuel + 1, outer, s, cs =>
    match m.skip cs with
    | [] => none
    | '[' :: rest =>
      match named? rest with
      | some (isOther, rest) => if isOther && !m.unicode then none else sets? m fuel outer (s.push 0) rest
      | none =>
        match opened? m rest with
        | some (inner, rest) => sets? m fuel (s :: outer) inner rest
        | none => none
    | ']' :: rest =>
      match outer with
      | [] => some (s.level + 1, rest)
      | around :: outer => sets? m fuel outer (around.push (s.level + 1)) rest
    | '&' :: '&' :: rest => sets? m fuel outer s.cut rest
    | '-' :: '-' :: rest => sets? m fuel outer s.cut rest
    | '~' :: '~' :: rest => sets? m fuel outer s.cut rest
    | cs =>
      match setRange? m cs with
      | some rest => sets? m fuel outer (s.push 0) rest
      | none => none

def set? (m : Modes) (cs : List Char) : Option (Nat × List Char) :=
  match opened? m cs with
  | some (s, rest) => if m.unicode && m.caseless then none else sets? m (cs.length + 1) [] s rest
  | none => none

/-! Groups. -/

inductive Opening where
  | modes (m : Modes)
  | group (m : Modes)
  | named (name : List Char)

/-- Letters that set modes, and those behind a dash that take them back, up to a colon or
a closing bracket; `seen` holds the signs before. -/
def flags? (m : Modes) (seen : List Char) : List Char → Option (Opening × List Char)
  | [] => none
  | ':' :: rest => if seen.head? == some '-' then none else some (.group m, rest)
  | ')' :: rest => if seen.head? == some '-' || seen.isEmpty then none else some (.modes m, rest)
  | c :: rest =>
    if seen.contains c || !"-imsUuRx".toList.contains c then none
    else flags? (m.set c (!seen.contains '-')) (c :: seen) rest

def isName (name : List Char) : Bool :=
  match name with
  | [] => false
  | first :: rest =>
    let isLetter := fun c => c == '_' || Text.isLetterOrNumber c
    isLetter first && (Text.decimalDigit? first).isNone &&
      rest.all fun c => isLetter c || c == '.' || c == '[' || c == ']'

def name? (cs : List Char) : Option (Opening × List Char) :=
  let name := cs.takeWhile (· != '>')
  match cs.drop name.length with
  | '>' :: rest => if isName name then some (.named name, rest) else none
  | _ => none

def opening? (m : Modes) (cs : List Char) : Option (Opening × List Char) :=
  match m.skip cs with
  | '?' :: 'P' :: '<' :: rest => name? rest
  | '?' :: '<' :: rest => name? rest
  | '?' :: rest => flags? m [] rest
  | rest => some (.group m, rest)

/-- The alternatives of a group, as far as they have been read: those that have ended,
and the last one. -/
structure Choice where
  ended : Option Nat
  row : Row

namespace Choice

def start : Choice := ⟨none, .empty⟩

def next (c : Choice) : Choice := ⟨some (max (c.ended.getD 0) c.row.level), .empty⟩

def level (c : Choice) : Nat :=
  match c.ended with
  | none => c.row.level
  | some depth => max depth c.row.level + 1

end Choice

structure Reading where
  modes : Modes
  choice : Choice
  /-- The groups around, innermost first, each with the modes of what follows it. -/
  outer : List (Modes × Choice)
  names : List (List Char)
  hasWordEdge : Bool

namespace Reading

def start : Reading := ⟨.usual, .start, [], [], false⟩

def push (r : Reading) (depth : Nat) : Reading :=
  { r with choice := { r.choice with row := r.choice.row.push depth } }

def enter (r : Reading) (m : Modes) : Reading :=
  { r with modes := m, choice := .start, outer := (r.modes, r.choice) :: r.outer }

def leave? (r : Reading) : Option Reading :=
  match r.outer with
  | [] => none
  | (modes, choice) :: outer =>
    some ({ r with modes, choice, outer }.push (r.choice.level + 1))

def repeat? (r : Reading) : Option Reading :=
  r.choice.row.repeated?.map fun row => { r with choice := { r.choice with row } }

def item? (r : Reading) : Item → Option Reading
  | .literal c => if r.modes.admits c then some (r.push 0) else none
  | .edge => some (r.push 0)
  | .wordEdge => some { r.push 0 with hasWordEdge := r.hasWordEdge || r.modes.unicode }
  | .kind isOther => if r.modes.unicode || isOther then none else some (r.push 0)

def open? (r : Reading) : Opening → Option Reading
  | .modes m => some { r with modes := m, choice := { r.choice with row := r.choice.row.pushModes } }
  | .group m => some (r.enter m)
  | .named name =>
    if r.names.contains name then none else some { r.enter r.modes with names := name :: r.names }

end Reading

/-- A question mark behind a repetition makes it short and is no repetition itself. -/
def behindRepetition : List Char → List Char
  | '?' :: rest => rest
  | rest => rest

def step? (r : Reading) (c : Char) (rest : List Char) : Option (Reading × List Char) :=
  match c with
  | '(' => (opening? r.modes rest).bind fun (opening, rest) => (r.open? opening).map (·, rest)
  | ')' => r.leave?.map (·, rest)
  | '|' => some ({ r with choice := r.choice.next }, rest)
  | '[' => (set? r.modes rest).map fun (depth, rest) => (r.push depth, rest)
  | '\x7b' => none
  | '\\' => (escaped? r.modes rest).bind fun (item, rest) => (r.item? item).map (·, rest)
  | '.' => if r.modes.unicode then some (r.push 0, rest) else none
  | '^' => some (r.push 0, rest)
  | '$' => some (r.push 0, rest)
  | c =>
    if c == '?' || c == '*' || c == '+' then r.repeat?.map (·, behindRepetition rest)
    else (r.item? (.literal c)).map (·, rest)

def run? : Nat → Reading → List Char → Option Reading
  | 0, _, _ => none
  | fuel + 1, r, cs =>
    match r.modes.skip cs with
    | [] => some r
    | c :: rest =>
      match step? r c rest with
      | some (r, rest) => run? fuel r rest
      | none => none

def depthLimit : Nat := 250

inductive Flaw where
  | form
  /-- It asks for the edges of words, of which there are too many kinds. -/
  | wordEdge
  deriving DecidableEq

def Flaw.text : Flaw → String
  | form => "error building NFA"
  | wordEdge => "unsupported regex feature for DFAs: cannot build DFAs for regexes with Unicode " ++
      "word boundaries; switch to ASCII word boundaries, or heuristically enable Unicode word " ++
      "boundaries or use a different regex engine"

def flaw? (cs : List Char) : Option Flaw :=
  match run? (cs.length + 1) .start cs with
  | none => some .form
  | some r =>
    if !r.outer.isEmpty || depthLimit < r.choice.level then some .form
    else if r.hasWordEdge then some .wordEdge
    else none

end KeyScript.Log.Pattern
