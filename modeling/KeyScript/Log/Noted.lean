import KeyScript.Log.Activity

/-! A session that keeps a log of what is done with it. -/
namespace KeyScript.Log

/-- A state together with the events so far, newest first. -/
structure Noted (σ : Type) where
  state : σ
  events : List Event

namespace Noted

def note (n : Noted σ) (events : List Event) : Noted σ := { n with events := events.reverse ++ n.events }

def log (n : Noted σ) : List Event := n.events.reverse

/-- Runs an operation on the session and notes what it did about the connection. -/
def lift (url : String) (timeout : Nat)
    (operation : Connection.Session π → Except Fault α × Connection.Session π)
    (n : Noted (Connection.Session π)) : Except Fault α × Noted (Connection.Session π) :=
  let (result, after) := operation n.state
  (result, { n with state := after }.note (connecting url timeout n.state after result))

def store (url : String) (timeout : Nat) (inner : Store (Connection.Session π)) :
    Store (Noted (Connection.Session π)) :=
  { execute := fun args n =>
      let (result, n) := lift url timeout (inner.execute args) n
      (result, n.note [executed args (.ofResult result)])
    users := lift url timeout inner.users
    keys := fun count => lift url timeout (inner.keys count) }

end Noted

end KeyScript.Log
