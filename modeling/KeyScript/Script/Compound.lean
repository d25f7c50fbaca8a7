import KeyScript.Script.Statement

/-! Compound keywords. One pass from left to right fuses a container command with
the subword that follows it. A container opens a compound only when the next
element that is not blank is one of its subwords. -/
namespace KeyScript.Script

/-- A compound that was opened and not yet closed; the blanks are newest first. -/
inductive Pending where
  | idle
  | opened (container : Token) (blanks : List Token)

def Pending.tokens : Pending → List Token
  | .idle => []
  | .opened container blanks => container :: blanks.reverse

/-- `node` opens a compound in front of `rest`. -/
def opens (node : Node) (rest : List Node) : Option Token :=
  match node with
  | .compound _ _ => none
  | .token t =>
    if t.isBlank then none
    else match Vocabulary.subwords? t.text with
      | some expected => if nextIs expected rest then some t else none
      | none => none

/-- The elements of the pass over `nodes`, and what is still open at its end. -/
def mergeFrom : Pending → List Node → List Node × Pending
  | pending, [] => ([], pending)
  | .idle, node :: rest =>
    match opens node rest with
    | some container => mergeFrom (.opened container []) rest
    | none =>
      let (nodes, pending) := mergeFrom .idle rest
      (node :: nodes, pending)
  | .opened container blanks, node :: rest =>
    if node.isBlank then mergeFrom (.opened container (node.tokens.reverse ++ blanks)) rest
    else
      let (nodes, pending) := mergeFrom .idle rest
      (.compound container (blanks.reverse ++ node.tokens) :: nodes, pending)

/-- Fuses the compounds of one statement. What is left open is put back. -/
def Statement.merge (s : Statement) : Statement :=
  let (nodes, pending) := mergeFrom .idle s.nodes
  { s with nodes := nodes ++ pending.tokens.map .token }

def mergeAll (statements : List Statement) : List Statement := statements.map Statement.merge

/-- Statements of a script, with compounds. Only the empty text has none. -/
def parse (text : String) : Except ParseFault (List Statement) :=
  (build (tokens text)).map mergeAll

end KeyScript.Script
