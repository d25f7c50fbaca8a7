import KeyScript.Completion.Context

/-! Candidates offered at the cursor. -/
namespace KeyScript.Completion

/-- Candidates in the order they are shown: names equal to what was typed come
first, then shorter names, then smaller ones. -/
def before (typed a b : String) : Bool :=
  let exactA := typed != "" && Text.sameFolded a typed
  let exactB := typed != "" && Text.sameFolded b typed
  if exactA != exactB then exactA
  else if a.utf8ByteSize != b.utf8ByteSize then a.utf8ByteSize < b.utf8ByteSize
  else !decide (b < a)

/-- The items that begin with `typed` up to case, in order. -/
def candidates (items : List String) (typed : String) : List String :=
  (items.filter (Text.startsFolded · typed)).mergeSort (before typed)

/-- Names known to the store. -/
structure Names where
  users : List String
  keys : List String
  deriving DecidableEq

def Names.empty : Names := ⟨[], []⟩

structure Answer where
  context : Context
  candidates : List String
  deriving DecidableEq

/-- Names are offered all; commands are narrowed to those that continue what is typed. -/
def offer (names : Names) : Context → List String
  | .user => names.users
  | .key => names.keys
  | .command typed => candidates Vocabulary.commands typed

def complete (triggers : Triggers) (names : Names) (text : String) (line character : Nat) :
    Answer :=
  let context := contextAt triggers text line character
  ⟨context, offer names context⟩

end KeyScript.Completion
