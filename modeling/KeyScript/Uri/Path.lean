import KeyScript.Text.Basic
import KeyScript.Uri.Percent

/-! Paths of URIs. Steps to the same directory and to the one above are carried out. -/
namespace KeyScript.Uri

def isHere (segment : List Char) : Bool :=
  [".", "%2e"].contains (String.ofList (segment.map Char.toLower))

def isUp (segment : List Char) : Bool :=
  ["..", ".%2e", "%2e.", "%2e%2e"].contains (String.ofList (segment.map Char.toLower))

/-- A letter and a colon, or a bar in its place, name a drive. -/
def isDrive : List Char → Bool
  | [letter, mark] => letter.isAlpha && (mark == ':' || mark == '|')
  | _ => false

/-- Leaves a directory. The root is not left, nor is a drive. -/
def leave (above : List (List Char)) : List (List Char) :=
  match above with
  | [] => []
  | last :: rest => if isDrive last then last :: rest else rest

/-- The directories after one more segment, newest first. A path that ends in a step
ends in a slash. -/
def passed (above : List (List Char)) (segment : List Char) (isLast : Bool) : List (List Char) :=
  let ended := fun above => if isLast then [] :: above else above
  if isHere segment then ended above
  else if isUp segment then ended (leave above)
  else segment :: above

/-- The directories that segments lead to from those above. -/
def walked (above : List (List Char)) : List (List Char) → List (List Char)
  | [] => above.reverse
  | segment :: rest => walked (passed above segment rest.isEmpty) rest

def slashed (segments : List (List Char)) : List Char := segments.flatMap ('/' :: ·)

def path (cs : List Char) : List Char :=
  slashed (walked [] ((Text.pieces '/' cs).map (encode hiddenInPath)))

/-- Tabs and line ends break a URI. They do not belong to it. -/
def isBreak (c : Char) : Bool := c == '\t' || c == '\n' || c == '\r'

def unbroken (cs : List Char) : List Char := cs.filter fun c => !isBreak c

/-- A drive in front of a break, and what follows both in the same segment. -/
def brokenDrive? (segment : List Char) : Option (List Char × List Char) :=
  match segment.dropWhile isBreak with
  | [] => none
  | letter :: more =>
    match more.dropWhile isBreak with
    | ':' :: mark :: rest =>
      if letter.isAlpha && isBreak mark && !(unbroken rest).isEmpty then
        some ([letter, ':'], unbroken rest)
      else none
    | _ => none

structure FilePath where
  /-- The directories above, newest first. -/
  above : List (List Char)
  /-- Whether it has begun with a whole segment that names a drive. -/
  hasDrive : Bool

/-- One more segment of a file's path. The first one may be a drive, which gets a colon.
A break parts a drive from what follows it, and that is then taken as it stands. -/
def FilePath.passed (p : FilePath) (segment : List Char) (isLast : Bool) : FilePath :=
  let whole := encode hiddenInPath (unbroken segment)
  match p.above, brokenDrive? segment, whole with
  | [], some (drive, rest), _ => ⟨[encode hiddenInPath rest, drive], p.hasDrive⟩
  | [], none, letter :: _ =>
    if isDrive whole then ⟨[[letter, ':']], true⟩ else ⟨Uri.passed [] whole isLast, p.hasDrive⟩
  | above, _, whole => ⟨Uri.passed above whole isLast, p.hasDrive⟩

def FilePath.walked (p : FilePath) : List (List Char) → FilePath
  | [] => p
  | segment :: rest => (p.passed segment rest.isEmpty).walked rest

def FilePath.text (p : FilePath) : List Char :=
  match p.above.reverse.dropWhile List.isEmpty with
  | [] => ['/']
  | segments => slashed segments

end KeyScript.Uri
