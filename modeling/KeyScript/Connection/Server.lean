import KeyScript.Connection.Session

/-! A server with prepared replies, at the end of a network that may not lead to it. -/
namespace KeyScript.Connection

inductive Network where
  | reachable
  | unreachable
  deriving DecidableEq

inductive Manner where
  | serving
  /-- Nothing listens. -/
  | refusing
  /-- Connections are taken and never answered. -/
  | silent
  deriving DecidableEq

structure Server where
  network : Network
  manner : Manner
  authError : Option String
  selectError : Option String
  replies : List Reply.Value
  /-- Commands received, newest first. -/
  received : List (List String)

namespace Server

def receive (server : Server) (args : List String) : Server :=
  { server with received := args :: server.received }

/-- What a client sends first: its credentials, if it has a password. -/
def credentials (e : Endpoint) : Option (List String) :=
  e.password.map fun password => "AUTH" :: (e.username.toList ++ [password])

/-- The database the client asks for, if it is not the first. -/
def selection (e : Endpoint) : Option (List String) :=
  if e.database = 0 then none else some ["SELECT", String.ofList (Text.decimal e.database)]

def authenticationFailed : StoreFault :=
  .described .authenticationFailed "Password authentication failed" none

def selectionRefused (line : String) : StoreFault :=
  .described .response "Redis server refused to switch database"
    (ErrorLine.ofText line).detail

def shake (command : Option (List String)) (refusal : Option StoreFault)
    (next : Server → Attempt × Server) (server : Server) : Attempt × Server :=
  match command with
  | none => next server
  | some args =>
    let server := server.receive args
    match refusal with
    | some fault => (.failed fault.summary, server)
    | none => next server

def greet (e : Endpoint) (server : Server) : Attempt × Server :=
  shake (credentials e) (server.authError.map fun _ => authenticationFailed)
    (shake (selection e) (server.selectError.map selectionRefused) fun server => (.connected, server))
    server

def connect (e : Endpoint) (server : Server) : Attempt × Server :=
  match server.network with
  | .unreachable => (.failed "Network is unreachable (os error 101)", server)
  | .reachable =>
    match server.manner with
    | .refusing => (.failed "Connection refused (os error 111)", server)
    | .silent => (.timedOut, server)
    | .serving => greet e server

/-- The next reply; when none is left, an acknowledgement. -/
def request (args : List String) (server : Server) : Except StoreFault Reply.Value × Server :=
  let server := server.receive args
  match server.replies with
  | [] => (.ok .okay, server)
  | reply :: rest => (.ok reply, { server with replies := rest })

def peer (e : Endpoint) : Peer Server := { connect := connect e, request := request }

end Server

end KeyScript.Connection
