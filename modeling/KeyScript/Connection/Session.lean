import KeyScript.Connection.Endpoint
import KeyScript.Reply.Names
import KeyScript.Store

/-! A session with a server. It connects on first use; an attempt that failed is
repeated by the next use, and a connection once made is kept. -/
namespace KeyScript.Connection

inductive Attempt where
  | connected
  | failed (reason : String)
  | timedOut
  deriving DecidableEq

/-- The other side of the connection: how it takes attempts and commands. -/
structure Peer (π : Type) where
  connect : π → Attempt × π
  request : List String → π → Except StoreFault Reply.Value × π

inductive Status where
  | disconnected
  | connected
  | failed (reason : String)
  deriving DecidableEq

def Status.text : Status → String
  | disconnected => "Disconnected"
  | connected => "Connected"
  | failed reason => "Failed(" ++ Text.quoted reason ++ ")"

structure Session (π : Type) where
  status : Status
  /-- A connection was made and is kept. -/
  established : Bool
  peer : π

namespace Session

def start (peer : π) : Session π := ⟨.disconnected, false, peer⟩

def isConnected (s : Session π) : Bool := s.status == .connected

/-- Makes the connection unless there is one. -/
def connect (peer : Peer π) (s : Session π) : Except Fault Unit × Session π :=
  if s.established then (.ok (), s)
  else
    match peer.connect s.peer with
    | (.connected, p) => (.ok (), ⟨.connected, true, p⟩)
    | (.failed reason, p) =>
      (.error (.connection (.failed reason)), ⟨.failed reason, false, p⟩)
    | (.timedOut, p) => (.error (.connection .timeout), ⟨.failed "timeout", false, p⟩)

def ask (peer : Peer π) (args : List String) (read : Reply.Value → Except StoreFault α)
    (s : Session π) : Except Fault α × Session π :=
  match connect peer s with
  | (.error fault, s) => (.error fault, s)
  | (.ok (), s) =>
    let (reply, p) := peer.request args s.peer
    let result := reply.bind fun value => value.orError.bind read
    (result.mapError .store, { s with peer := p })

def answer : Reply.Value → Except StoreFault Answer
  | .nil => .ok .nil
  | value => .ok (.value value.text)

def execute (peer : Peer π) (args : List String) (s : Session π) :
    Except Fault Answer × Session π :=
  if args.isEmpty then (.error (.execution .emptyCommand), s) else ask peer args answer s

def users (peer : Peer π) (s : Session π) : Except Fault (List String) × Session π :=
  ask peer ["ACL", "USERS"] Reply.Value.names s

def keys (peer : Peer π) (count : Nat) (s : Session π) :
    Except Fault (List String) × Session π :=
  ask peer ["SCAN", "0", "COUNT", String.ofList (Text.decimal count)]
    (fun value => value.page.map (·.2)) s

def store (peer : Peer π) : Store (Session π) :=
  { execute := execute peer, users := users peer, keys := keys peer }

end Session

end KeyScript.Connection
