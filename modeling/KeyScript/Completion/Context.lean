import KeyScript.Completion.Cursor

/-! What is being typed at the cursor: a user name, a key name, or a command. -/
namespace KeyScript.Completion

open Script

inductive Context where
  | user
  | key
  /-- A command, of which `typed` is already there. -/
  | command (typed : String)
  deriving DecidableEq

/-- Commands whose argument is a user name or a key name. -/
structure Triggers where
  users : List String
  keys : List String
  deriving DecidableEq

namespace Triggers

def standard : Triggers := ⟨["ACL GETUSER"], ["GET", "SET"]⟩

def lastWord (p : Node → Bool) (nodes : List Node) : Option Node :=
  nodes.reverse.find? fun n => !n.isBlank && p n

/-- A terminator at the column starts a new command. Otherwise the nearest
element that ends before the column decides. -/
def classifyAt (t : Triggers) (r : Resolution) (column : Nat) : Context :=
  if (lastWord (·.columns.last ≤ column) r.statement.nodes).any Node.isTerminator then
    .command ""
  else
    let typed := Context.command (Text.trimStart r.textBefore)
    match lastWord (·.columns.last < column) r.statement.nodes with
    | none => typed
    | some node =>
      if t.users.contains node.keyword then .user
      else if t.keys.contains node.keyword then .key
      else typed

def classify (t : Triggers) (r : Resolution) : Context :=
  match r.column with
  | some column => t.classifyAt r column
  | none => .command ""

end Triggers

/-- The context at a cursor in front of character `character` of line `line`. -/
def contextAt (triggers : Triggers) (text : String) (line character : Nat) : Context :=
  let column := if character = 0 then none else some (character - 1)
  match parse text with
  | .error _ => .command ""
  | .ok statements =>
    match resolve statements line column with
    | .ok resolution => triggers.classify resolution
    | .error _ => .command ""

end KeyScript.Completion
