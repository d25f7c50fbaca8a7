import KeyScript.Script.Compound

/-! Commands: what a statement asks the store to do, and the plan of a script. -/
namespace KeyScript.Script

structure Command where
  args : List String
  deriving DecidableEq

/-- Arguments that an element contributes: separators and blanks contribute none. -/
def Node.args : Node → List String
  | .token t => if t.isBlank || t.isSeparator then [] else [t.text]
  | .compound container more => Node.words (.compound container more)

namespace Command

def ofStatement (s : Statement) : Command := ⟨s.nodes.flatMap Node.args⟩

def isEmpty (c : Command) : Bool := c.args.isEmpty

def text (c : Command) : String := " ".intercalate c.args

def ofStatements (statements : List Statement) : List Command :=
  (statements.map ofStatement).filter (!·.isEmpty)

end Command

/-- The commands that running `text` sends, in order. The empty text sends none. -/
def plan (text : String) : List Command :=
  match parse text with
  | .ok statements => Command.ofStatements statements
  | .error .emptyInput => []

end KeyScript.Script
