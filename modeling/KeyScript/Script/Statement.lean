import KeyScript.Script.Token

/-! Statements. Tokens are split after each terminator and line break; the pieces
are statements, each with the number of line breaks before it. -/
namespace KeyScript.Script

/-- A statement's element: one token, or a container command fused with its
subword and the blanks between them. -/
inductive Node where
  | token (t : Token)
  | compound (container : Token) (more : List Token)
  deriving DecidableEq

namespace Node

def tokens : Node → List Token
  | token t => [t]
  | compound container more => container :: more

def first : Node → Token
  | token t => t
  | compound container _ => container

def last : Node → Token
  | token t => t
  | compound container more => more.getLast?.getD container

def place (n : Node) : Span := ⟨n.first.place.first, n.last.place.last⟩

def columns (n : Node) : Span := ⟨n.first.columns.first, n.last.columns.last⟩

def isBlank : Node → Bool
  | token t => t.isBlank
  | compound _ _ => false

def isTerminator : Node → Bool
  | token t => t.kind == .terminator
  | compound _ _ => false

def text (n : Node) : String := String.join (n.tokens.map (·.text))

/-- Texts of the tokens that are not blank. -/
def words (n : Node) : List String := (n.tokens.filter (!·.isBlank)).map (·.text)

/-- The text that is compared with a trigger: the words of a compound with one space between. -/
def keyword : Node → String
  | token t => t.text
  | compound container more => " ".intercalate (words (.compound container more))

end Node

structure Statement where
  /-- Line breaks before the statement. -/
  line : Nat
  nodes : List Node
  deriving DecidableEq

namespace Statement

def text (s : Statement) : String := String.join (s.nodes.map Node.text)

def place (s : Statement) : Span :=
  ⟨(s.nodes.head?.map (·.place.first)).getD 0, (s.nodes.getLast?.map (·.place.last)).getD 0⟩

def columns (s : Statement) : Span :=
  ⟨(s.nodes.head?.map (·.columns.first)).getD 0, (s.nodes.getLast?.map (·.columns.last)).getD 0⟩

end Statement

/-- The text of the next element that is not blank is one of `expected`. -/
def nextIs (expected : List String) (nodes : List Node) : Bool :=
  match nodes.find? (!·.isBlank) with
  | some node => expected.contains node.text
  | none => false

/-- Splits after each separator that is not the last token. -/
def split (line : Nat) : List Token → List Statement
  | [] => []
  | t :: rest =>
    if t.isSeparator && !rest.isEmpty then
      ⟨line, [.token t]⟩ :: split (if t.kind = .lineBreak then line + 1 else line) rest
    else match split line rest with
      | [] => [⟨line, [.token t]⟩]
      | s :: more => { s with nodes := .token t :: s.nodes } :: more

inductive ParseFault where
  | emptyInput
  deriving DecidableEq

def build (tokens : List Token) : Except ParseFault (List Statement) :=
  if tokens.isEmpty then .error .emptyInput else .ok (split 0 tokens)

end KeyScript.Script
