import KeyScript.Text.Basic

/-! Paths in a file tree, written with slashes. -/
namespace KeyScript.Path

def isAbsolute (path : String) : Bool := path.startsWith "/"

/-- `name` inside `directory`. An absolute name stands for itself. -/
def join (directory name : String) : String :=
  if isAbsolute name || directory.isEmpty then name
  else if directory.endsWith "/" then directory ++ name
  else directory ++ "/" ++ name

def root : String := "/"

def here : String := "."
def above : String := ".."

/-- The steps of a path; slashes next to one another count as one. -/
def steps (path : String) : List String :=
  ((Text.pieces '/' path.toList).filter (!·.isEmpty)).map String.ofList

/-- Where a path begins: at the root or in the working directory. -/
def origin (path : String) : List String := if isAbsolute path then [root] else []

/-- The place above a place. The root is above itself; above the working directory
lie places of which nothing is known. -/
def up (place : List String) : List String :=
  match place.getLast? with
  | none => [above]
  | some name => if name = root then place else if name = above then place ++ [above] else place.dropLast

def text (names : List String) : String :=
  match names with
  | [] => ""
  | name :: rest =>
    if name = root then root ++ "/".intercalate rest else "/".intercalate (name :: rest)

/-- The names of a path without steps to the same directory, save a first one. -/
def names (path : String) : List String :=
  let kept := match steps path with
    | [] => []
    | first :: rest =>
      (if isAbsolute path && first = here then [] else [first]) ++ rest.filter (· != here)
  origin path ++ kept

/-- The path, and the directories on the way to it, nearest first, without the root. -/
def ancestors (path : String) : List String :=
  match names path with
  | [] => []
  | all =>
    let shorter := (List.range all.length).reverse.map fun count => text (all.take count)
    path :: shorter.filter fun p => !p.isEmpty && p != root

end KeyScript.Path
