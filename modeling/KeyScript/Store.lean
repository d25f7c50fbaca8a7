import KeyScript.Completion.Candidates
import KeyScript.Fault
import KeyScript.Script.Command

/-! Stores, and running a script against one. A store is any way to answer commands
that may depend on, and change, a state. -/
namespace KeyScript

/-- The answer to one command. -/
inductive Answer where
  | nil
  | value (text : String)
  deriving DecidableEq

structure Store (σ : Type) where
  /-- Runs one command given by its name and arguments. -/
  execute : List String → σ → Except Fault Answer × σ
  users : σ → Except Fault (List String) × σ
  /-- Names of some keys; the number asks for about so many. -/
  keys : Nat → σ → Except Fault (List String) × σ

/-- What became of one command. -/
inductive Outcome where
  | reply (text : String)
  | nil
  | failed (text : String)
  deriving DecidableEq

namespace Outcome

def ofResult : Except Fault Answer → Outcome
  | .ok .nil => .nil
  | .ok (.value text) => .reply text
  | .error fault => .failed fault.message

/-- The script goes on after this outcome. -/
def isSuccess : Outcome → Bool
  | reply _ => true
  | _ => false

def text : Outcome → String
  | reply text => text
  | nil => "redis: nil"
  | failed text => text

end Outcome

namespace Store

def runCommands (store : Store σ) : List Script.Command → σ → List Outcome × σ
  | [], state => ([], state)
  | command :: rest, state =>
    let (result, state) := store.execute command.args state
    let outcome := Outcome.ofResult result
    if outcome.isSuccess then
      let (outcomes, state) := store.runCommands rest state
      (outcome :: outcomes, state)
    else ([outcome], state)

def run (store : Store σ) (text : String) (state : σ) : List Outcome × σ :=
  store.runCommands (Script.plan text) state

/-- Asks for user names and, if they are given, for key names. -/
def loadNames (store : Store σ) (count : Nat) (state : σ) :
    Except Fault Completion.Names × σ :=
  match store.users state with
  | (.error fault, state) => (.error fault, state)
  | (.ok users, state) =>
    match store.keys count state with
    | (.error fault, state) => (.error fault, state)
    | (.ok keys, state) => (.ok ⟨users, keys⟩, state)

end Store

end KeyScript
