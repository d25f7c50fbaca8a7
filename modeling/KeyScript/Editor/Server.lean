import KeyScript.Editor.Call
import KeyScript.Manual
import KeyScript.Settings
import KeyScript.Store
import KeyScript.Text.Lines

/-! The server of an editor: completion, pages of the manual, and running scripts. It
takes one message after another; between them it keeps the texts of the open
documents and the state of the store, and nothing that was parsed. -/
namespace KeyScript.Editor

structure Services (σ : Type) where
  triggers : Completion.Triggers
  names : Completion.Names
  manual : Manual
  disk : Disk
  store : Store σ

inductive Phase where
  | fresh
  | ready
  | stopped
  | exited
  deriving DecidableEq

structure Server (σ : Type) where
  phase : Phase
  documents : Documents
  state : σ

def Server.start (state : σ) : Server σ := ⟨.fresh, .empty, state⟩

/-- The one command that the server executes: running a script. -/
def runCommand : String := "server.executeCommand"

/-- What the server can do. Documents are sent whole with every change. -/
def capabilities : Json :=
  .object [
    ("capabilities", .object [
      ("textDocumentSync", .nat 1),
      ("completionProvider", .object [("resolveProvider", .bool true)]),
      ("executeCommandProvider", .object [("commands", .strings [runCommand])])]),
    ("serverInfo", .object [("name", .string programName), ("version", .string version)])]

/-- The kind of a completion item: a keyword for commands, a value for names. -/
def itemKind : Completion.Context → Nat
  | .command _ => 14
  | .user | .key => 12

def items (answer : Completion.Answer) : Json :=
  .array (answer.candidates.map fun label =>
    .object [("label", .string label), ("kind", .nat (itemKind answer.context))])

/-- Completion at a position of a document. The editor counts UTF-16 units. -/
def completion (services : Services σ) (text : String) (line character : Nat) : Completion.Answer :=
  Completion.complete services.triggers services.names text line
    (Text.charColumn text line character)

/-- The item with a page of the manual, if its label has one. -/
def resolved (services : Services σ) (label : String) (item : Json) : Json :=
  match services.manual.markdown services.disk label, item with
  | .ok page, .object fields =>
    .object (fields.filter (·.1 != "documentation") ++
      [("documentation", .object [("kind", .string "markdown"), ("value", .string page)])])
  | _, item => item

def Notice.ofOutcome : Outcome → Notice
  | .reply text => .logged .log text
  | .nil => .logged .error Outcome.nil.text
  | .failed text => .shown .error text

/-- The script that a command carries as its first argument. -/
def script (command : String) (arguments : List Json) : Except Refusal String :=
  if command != runCommand then .error (.invalidParams ("unknown command: " ++ command))
  else match arguments with
    | .string text :: _ => .ok text
    | _ => .error (.invalidParams ExecutionFault.missingArgument.message)

/-- What a call leads to: a result, and notices in the order they are sent. -/
structure Effect where
  result : Except Refusal Json
  notices : List Notice

def Effect.ok (result : Json) : Effect := ⟨.ok result, []⟩

def Server.call (services : Services σ) (server : Server σ) : Call → Effect × Server σ
  | .handshake => (.ok capabilities, server)
  | .initialized => (⟨.ok .null, [.logged .info (programName ++ " initialized")]⟩, server)
  | .shutdown => (.ok .null, server)
  | .change change => (.ok .null, { server with documents := server.documents.after change })
  | .complete uri line character =>
    (.ok (items (completion services (server.documents.text uri) line character)), server)
  | .resolve label item => (.ok (resolved services label item), server)
  | .cancel _ => (.ok .null, server)
  | .execute command arguments =>
    match script command arguments with
    | .error refusal => (⟨.error refusal, []⟩, server)
    | .ok text =>
      let (outcomes, state) := services.store.run text server.state
      (⟨.ok .null, outcomes.map .ofOutcome⟩, { server with state })

structure Reply where
  response : Option Json
  notices : List Notice

def Reply.none : Reply := ⟨.none, []⟩

/-- What is sent, in order. -/
def Reply.messages (reply : Reply) : List Json :=
  reply.notices.map (·.json) ++ reply.response.toList

def Reply.refuse (request : Request) (refusal : Refusal) : Reply :=
  ⟨request.id.map fun id => answered id (.error refusal), []⟩

/-- Reads and carries out a message. A notice that has an identifier is refused, and a
request that has none is passed over. -/
def Server.handle (services : Services σ) (server : Server σ) (request : Request) :
    Reply × Server σ :=
  let method := Method.ofName request.method
  if method.isNotice && request.id.isSome then (.refuse request .invalidRequest, server)
  else if !method.isNotice && request.id.isNone then (.none, server)
  else match Call.read method request.params with
    | .error refusal => (.refuse request refusal, server)
    | .ok call =>
      let (effect, server) := server.call services call
      (⟨request.id.map fun id => answered id effect.result, effect.notices⟩, server)

/-- The conversation has begun once `initialize` has been answered with a result. -/
def begins (request : Request) : Bool :=
  request.id.isSome && match Call.read .handshake request.params with
    | .ok _ => true
    | .error _ => false

/-- Why a message that needs a ready server is refused. -/
def Phase.refusal : Phase → Refusal
  | .fresh => .notInitialized
  | _ => .invalidRequest

/-- A reply to a method that the protocol does not know. Those that begin with a
dollar sign and a slash may be passed over. -/
def unknownReply (request : Request) : Reply :=
  if request.method.startsWith "$/" then .none
  else .refuse request (.unknownMethod request.method)

def Server.step (services : Services σ) (server : Server σ) (request : Request) :
    Reply × Server σ :=
  match Method.ofName request.method with
  | .unknown => (unknownReply request, server)
  | .cancel => server.handle services request
  | .exit => (.none, { server with phase := .exited })
  | .handshake =>
    if server.phase = .fresh then
      let (reply, server) := server.handle services request
      (reply, if begins request then { server with phase := .ready } else server)
    else (.refuse request .invalidRequest, server)
  | .shutdown =>
    if server.phase = .ready then
      { server with phase := .stopped }.handle services request
    else (.refuse request server.phase.refusal, server)
  | _ =>
    if server.phase = .ready then server.handle services request
    else (.refuse request server.phase.refusal, server)

end KeyScript.Editor
