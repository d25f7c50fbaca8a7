import KeyScript.Text.Digits
import KeyScript.Toml.Value

/-! Writing TOML: one section for each table, a blank line between sections. -/
namespace KeyScript.Toml

def longestRun (c : Char) (cs : List Char) : Nat :=
  (cs.foldl (fun (best, run) d =>
    if c = d then (max best (run + 1), run + 1) else (best, 0)) (0, 0)).1

/-- Characters that only an escape can write; a tab and a line end need none everywhere. -/
def needsEscape (c : Char) : Bool :=
  (c.toNat < 32 && c != '\n' && c != '\t') || c.toNat == 127

def escape (c : Char) : List Char :=
  match c with
  | '"' => ['\\', '"']
  | '\\' => ['\\', '\\']
  | '\n' => ['\\', 'n']
  | '\r' => ['\\', 'r']
  | '\t' => ['\\', 't']
  | c =>
    if c.toNat = 8 then ['\\', 'b']
    else if c.toNat = 12 then ['\\', 'f']
    else if needsEscape c then '\\' :: 'u' :: (Text.hex 4 c.toNat).map Char.toUpper
    else [c]

/-- Characters between three double quotes: line ends stay, and so do quotes of
which no more than two stand together. -/
def escapeLines : Nat → List Char → List Char
  | _, [] => []
  | run, '"' :: rest =>
    if run < 2 then '"' :: escapeLines (run + 1) rest else '\\' :: '"' :: escapeLines 0 rest
  | _, '\n' :: rest => '\n' :: escapeLines 0 rest
  | _, c :: rest => escape c ++ escapeLines 0 rest

/-- The plainest quotes that can hold the text: double, single, three double, three
single; failing that, double quotes with escapes. -/
def quote (s : String) : List Char :=
  let cs := s.toList
  let escapes := cs.any needsEscape
  let backslash := cs.contains '\\'
  let lineEnd := cs.contains '\n'
  let doubles := longestRun '"' cs
  let singles := longestRun '\'' cs
  let three := fun (c : Char) (body : List Char) =>
    let marks := [c, c, c]
    marks ++ (if lineEnd then ['\n'] else []) ++ body ++ marks
  if !escapes && !backslash && !lineEnd && doubles == 0 then '"' :: cs.flatMap escape ++ ['"']
  else if !escapes && !lineEnd && singles == 0 then '\'' :: cs ++ ['\'']
  else if !escapes && !backslash && doubles ≤ 2 then three '"' (escapeLines 0 cs)
  else if !escapes && singles ≤ 2 then three '\'' cs
  else if lineEnd then three '"' (escapeLines 0 cs)
  else '"' :: cs.flatMap escape ++ ['"']

def joinWith (separator : List Char) : List (List Char) → List Char
  | [] => []
  | [part] => part
  | part :: rest => part ++ separator ++ joinWith separator rest

mutual

/-- A value behind its key. An array of two items or more has a line for each. -/
def valueText : Value → List Char
  | .string s => quote s
  | .integer n => Text.decimalInt n
  | .float text => text.toList
  | .boolean true => "true".toList
  | .boolean false => "false".toList
  | .datetime text => text.toList
  | .array items =>
    match itemTexts items with
    | [] => ['[', ']']
    | [item] => '[' :: item ++ [']']
    | items => '[' :: '\n' :: items.flatMap (fun item => "    ".toList ++ item ++ [',', '\n']) ++ [']']
  | .table entries =>
    match entryTexts entries with
    | [] => ['\x7b', '\x7d']
    | entries => "\x7b ".toList ++ joinWith [',', ' '] entries ++ " \x7d".toList

def itemTexts : List Value → List (List Char)
  | [] => []
  | item :: rest => valueText item :: itemTexts rest

def entryTexts : List (String × Value) → List (List Char)
  | [] => []
  | (key, value) :: rest => (key.toList ++ " = ".toList ++ valueText value) :: entryTexts rest

end

def entryLines (entries : List (String × Value)) : List Char :=
  (entryTexts entries).flatMap (· ++ ['\n'])

def section? : String × Value → Option (List Char)
  | (name, .table entries) => some ('[' :: name.toList ++ [']', '\n'] ++ entryLines entries)
  | _ => none

def isTable : Value → Bool
  | .table _ => true
  | _ => false

def render (entries : List (String × Value)) : String :=
  let plain := entryLines (entries.filter fun e => !isTable e.2)
  let sections := entries.filterMap section?
  let parts := if plain.isEmpty then sections else plain :: sections
  String.ofList (joinWith ['\n'] parts)

end KeyScript.Toml
