import KeyScript.Disk
import KeyScript.Fault
import KeyScript.Text.Basic

/-! The manual: a directory that holds one page of markdown for each command. -/
namespace KeyScript

/-- A manual in a directory, or one that has no page. -/
structure Manual where
  directory : Option String
  deriving DecidableEq

namespace Manual

/-- The ASCII letter in lower case, for each character that has one: the letters
`A` to `Z` and the Kelvin sign. Other characters are kept. -/
def lower (c : Char) : Char := if c.toNat = 0x212A then 'k' else c.toLower

def isNameChar (c : Char) : Bool := c.isAlphanum || c == '-' || c == '_'

def nameChars (label : String) : List Char :=
  (Text.trimmed label.toList).map fun c => if c == ' ' then '-' else lower c

/-- The file of a label: its words in lower case with a dash between them. Labels
with other characters have no page, so no label leads out of the directory. -/
def pageName? (label : String) : Option String :=
  let name := nameChars label
  if name.isEmpty || !name.all isNameChar then none else some (String.ofList name ++ ".md")

def noDirectory : IoFault := ⟨.notFound, "no documentation directory configured"⟩

def noPage (label : String) : IoFault :=
  ⟨.invalidInput, "no documentation file for label '" ++ label ++ "'"⟩

def pagePath (manual : Manual) (label : String) : Except IoFault String :=
  match manual.directory, pageName? label with
  | none, _ => .error noDirectory
  | some _, none => .error (noPage label)
  | some directory, some name => .ok (Path.join directory name)

def lookup (manual : Manual) (disk : Disk) (label : String) : Except Fault String :=
  ((manual.pagePath label).bind disk.read).mapError .io

def markdown (manual : Manual) (disk : Disk) (label : String) : Except Fault String :=
  (manual.lookup disk label).map fun body => "### " ++ label ++ "\n\n" ++ body

end Manual

end KeyScript
