import KeyScript.Uri

/-! The texts of the open documents. -/
namespace KeyScript.Editor

structure Documents where
  entries : List (Uri × String)
  deriving DecidableEq

namespace Documents

def empty : Documents := ⟨[]⟩

def get? (d : Documents) (uri : Uri) : Option String := d.entries.lookup uri

/-- The text of a document; one that is not open has none. -/
def text (d : Documents) (uri : Uri) : String := (d.get? uri).getD ""

def erase (d : Documents) (uri : Uri) : Documents := ⟨d.entries.filter (·.1 != uri)⟩

/-- Opens a document, or replaces its text. -/
def set (d : Documents) (uri : Uri) (text : String) : Documents :=
  ⟨(uri, text) :: (d.erase uri).entries⟩

def size (d : Documents) : Nat := d.entries.length

def isEmpty (d : Documents) : Bool := d.entries.isEmpty

end Documents

inductive Change where
  | opened (uri : Uri) (text : String)
  /-- The texts it had one after another. -/
  | edited (uri : Uri) (texts : List String)
  | closed (uri : Uri)
  deriving DecidableEq

/-- Of several texts the last one stays. -/
def Documents.after (d : Documents) : Change → Documents
  | .opened uri text => d.set uri text
  | .edited uri texts =>
    match texts.getLast? with
    | some text => d.set uri text
    | none => d
  | .closed uri => d.erase uri

end KeyScript.Editor
