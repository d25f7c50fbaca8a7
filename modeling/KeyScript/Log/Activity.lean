import KeyScript.Connection.Session
import KeyScript.Editor.Server
import KeyScript.Log.Event
import KeyScript.Manual.Fetch

/-! The events of each activity, as a function of what it works on and what comes of it. -/
namespace KeyScript.Log

def number (n : Nat) : String := String.ofList (Text.decimal n)

/-! Scripts and completion. -/

def parsing (text : String) : List Event :=
  let tokens := Script.tokens text
  let read : Event := ⟨.debug, "redis_lsp::parser", "tokenized input", [("tokens", number tokens.length)]⟩
  match Script.build tokens with
  | .error _ => [read]
  | .ok statements =>
    [read, ⟨.trace, "redis_lsp::parser::statement", "built statements",
      [("count", number statements.length)]⟩]

def contextText : Completion.Context → String
  | .user => "User"
  | .key => "Key"
  | .command typed => "Command \x7b prefix: " ++ Text.quoted typed ++ " \x7d"

def classifying (triggers : Completion.Triggers) (text : String) (line character : Nat) :
    List Event :=
  let column := if character = 0 then none else some (character - 1)
  match Script.parse text with
  | .error _ => []
  | .ok statements =>
    match Completion.resolve statements line column with
    | .error _ => []
    | .ok resolution =>
      [⟨.debug, "redis_lsp::completion::context", "classified cursor",
        [("context", contextText (triggers.classify resolution)),
          ("offset", number resolution.offset)]⟩]

def completing (services : Editor.Services σ) (text : String) (line units : Nat) : List Event :=
  let character := Text.charColumn text line units
  let answer := Editor.completion services text line units
  parsing text ++ classifying services.triggers text line character ++
    [⟨.debug, "redis_lsp::completion::engine", "completion finished",
      [("line", number line), ("character", number character),
        ("candidates", number answer.candidates.length)]⟩]

/-- Everything that comes before the first command of a script. -/
def planning (text : String) : List Event :=
  parsing text ++ [⟨.info, "redis_lsp::executor", "executing script",
    [("commands", number (Script.plan text).length)]⟩]

def outcomeText : Outcome → String
  | .reply text => "Reply(" ++ Text.quoted text ++ ")"
  | .nil => "Nil"
  | .failed text => "Failed(" ++ Text.quoted text ++ ")"

/-- A command was run; no clock is read. -/
def executed (command : List String) (outcome : Outcome) : Event :=
  ⟨.debug, "redis_lsp::executor", "executed command",
    [("command", " ".intercalate command), ("elapsed_ms", "0"), ("outcome", outcomeText outcome)]⟩

/-! The connection. -/

def connectionEvent (level : LogLevel) (message : String) (details : List (String × String)) : Event :=
  ⟨level, "redis_lsp::connection", message, details⟩

def created (url : String) : Event := connectionEvent .debug "created redis client" [("url", url)]

/-- A span of whole seconds. -/
def secondsText (seconds : Nat) : String := if seconds = 0 then "0ns" else number seconds ++ "s"

/-- What an operation on a session did about the connection. -/
def connecting (url : String) (timeout : Nat) (before after : Connection.Session π)
    (result : Except Fault α) : List Event :=
  let begun := connectionEvent .info "connecting to redis" [("url", url)]
  if before.established then []
  else match result with
    | .error (.connection .timeout) =>
      [begun, connectionEvent .warn "redis connection timed out" [("timeout", secondsText timeout)]]
    | .error (.connection (.failed reason)) =>
      [begun, connectionEvent .warn "redis connection failed" [("error", reason)]]
    | _ => if after.established then [begun] else []

def namesLoaded (names : Completion.Names) : Event :=
  connectionEvent .info "loaded name cache"
    [("users", number names.users.length), ("keys", number names.keys.length)]

def namesNotLoaded (fault : Fault) : Event :=
  ⟨.warn, "redis_lsp", "could not preload names, completing commands only",
    [("error", fault.message)]⟩

def starting (url : String) : Event := ⟨.info, "redis_lsp", "starting server", [("url", url)]⟩

def stopping : Event := ⟨.info, "redis_lsp", "stopping server", []⟩

/-! The manual. -/

/-- Looking up a page, which is read if the label names one. -/
def lookingUp (manual : Manual) (disk : Disk) (label : String) : List Event :=
  let reading := match manual.pagePath label with
    | .ok path => [(⟨.debug, "redis_lsp::documentation", "reading documentation", [("path", path)]⟩ : Event)]
    | .error _ => []
  match manual.lookup disk label with
  | .ok _ => reading
  | .error fault =>
    reading ++ [⟨.debug, "redis_lsp::server", "no documentation",
      [("label", label), ("error", fault.message)]⟩]

def fetchEvent (level : LogLevel) (message : String) (details : List (String × String)) : Event :=
  ⟨level, "redis_lsp::documentation::fetch", message, details⟩

/-- Parts of the machinery that sends requests, by which directives name them. -/
inductive Sender where
  | connections
  | pool
  | names
  | sockets
  | retries

def Sender.area : Sender → String
  | connections => "reqwest::connect"
  | pool => "hyper_util::client::legacy::pool"
  | names => "hyper_util::client::legacy::connect::dns"
  | sockets => "hyper_util::client::legacy::connect::http"
  | retries => "reqwest::retry"

def senderEvent (level : LogLevel) (sender : Sender) (message : String) : Event :=
  ⟨level, sender.area, message, []⟩

/-- A request that does not get through. An address is tried at once; the name of a
domain would have to be looked up first. -/
def requesting (request : Manual.Request) : List Event :=
  let key := "(" ++ Text.quoted request.scheme ++ ", " ++ request.authority ++ ")"
  let port := match request.port with
    | some port => "Some(Port(" ++ number port ++ "))"
    | none => "None"
  let tried :=
    if request.isDirect then
      [senderEvent .debug .sockets ("connecting to " ++ request.address),
        senderEvent .trace .sockets ("connect error for " ++ request.address ++
          ": ConnectError(\"tcp connect error\", Os \x7b code: 101, kind: NetworkUnreachable, " ++
          "message: \"Network is unreachable\" \x7d)")]
    else [senderEvent .debug .names ("resolving host=" ++ Text.quoted request.host)]
  [senderEvent .trace .pool ("checkout waiting for idle connection: " ++ key),
    senderEvent .debug .connections
      ("starting new connection: " ++ request.scheme ++ "://" ++ request.authority ++ "/"),
    senderEvent .trace .sockets ("Http::connect; scheme=Some(" ++ Text.quoted request.scheme ++
      "), host=Some(" ++ Text.quoted request.host ++ "), port=" ++ port)] ++ tried ++
  [senderEvent .trace .pool ("checkout dropped for " ++ key),
    senderEvent .trace .retries "shouldn't retry!"]

def visited (visit : Manual.Visit) : List Event :=
  match visit.result with
  | .ok path => [fetchEvent .debug "wrote documentation" [("path", path)]]
  | .error fault =>
    visit.request.toList.flatMap requesting ++ [fetchEvent .warn "could not fetch documentation"
      [("command", visit.label), ("error", fault.message)]]

def fetching (directory : String) (visits : List Manual.Visit) : List Event :=
  let summary := Manual.Summary.ofVisits visits
  [fetchEvent .info "fetching documentation"
    [("commands", number visits.length), ("directory", directory)]] ++
  visits.flatMap visited ++
  [fetchEvent .info "documentation fetch finished"
    [("written", number summary.written), ("failed", number summary.failed.length)]]

/-! The editor. -/

def serverEvent (level : LogLevel) (message : String) (details : List (String × String)) : Event :=
  ⟨level, "redis_lsp::server", message, details⟩

/-- Parts of the protocol's own machinery, by which directives name them. -/
inductive Part where
  | methods
  | phases
  | requests
  | answers
  | transport
  | frames

def Part.area : Part → String
  | methods => "tower_lsp"
  | phases => "tower_lsp::service::layers"
  | requests => "tower_lsp::service::pending"
  | answers => "tower_lsp::service::client::pending"
  | transport => "tower_lsp::transport"
  | frames => "tower_lsp::codec"

def protocolEvent (level : LogLevel) (part : Part) (message : String) : Event :=
  ⟨level, part.area, message, []⟩

def heard (text : String) : Event := protocolEvent .trace .frames ("<- " ++ text)

def told (message : Json) : Event := protocolEvent .trace .frames ("-> " ++ message.compact)

def changing (documents : Editor.Documents) (change : Editor.Change) : List Event :=
  let after := documents.after change
  match change with
  | .opened uri _ =>
    [serverEvent .debug "did_open" [("uri", uri.text)],
      serverEvent .debug "tracking documents" [("open", number after.size)]]
  | .edited _ _ => []
  | .closed uri =>
    serverEvent .debug "did_close" [("uri", uri.text)] ::
      if after.isEmpty then [serverEvent .debug "no open documents" []] else []

def calling (services : Editor.Services σ) (documents : Editor.Documents) : Editor.Call → List Event
  | .handshake => [serverEvent .info "initialize" []]
  | .initialized => []
  | .shutdown => [serverEvent .info "shutdown" []]
  | .change change => changing documents change
  | .complete uri line units => completing services (documents.text uri) line units
  | .resolve label _ => lookingUp services.manual services.disk label
  | .execute command arguments =>
    match Editor.script command arguments with
    | .ok text => planning text
    | .error _ => []
  | .cancel id =>
    [protocolEvent .debug .requests ("client asked to cancel request " ++ Editor.idText id ++
      ", but no such pending request exists, ignoring")]

def handling (services : Editor.Services σ) (documents : Editor.Documents)
    (request : Editor.Request) : List Event :=
  let method := Editor.Method.ofName request.method
  if request.id.isSome == method.isNotice then []
  else match method, Editor.Call.read method request.params with
    | _, .ok call => calling services documents call
    | .otherRequest _, .error .notServed =>
      [protocolEvent .error .methods
        ("Got a " ++ request.method ++ " request, but it is not implemented")]
    | .otherNotice _, .error .notServed =>
      [protocolEvent .warn .methods
        ("Got a " ++ request.method ++ " notification, but it is not implemented")]
    | _, .error _ => []

/-- Events of one message up to the first command that it runs. -/
def taking (services : Editor.Services σ) (server : Editor.Server σ) (request : Editor.Request) :
    List Event :=
  match Editor.Method.ofName request.method with
  | .unknown => []
  | .cancel => handling services server.documents request
  | .exit => [protocolEvent .info .phases "exit notification received, stopping"]
  | .handshake =>
    if server.phase = .fresh then handling services server.documents request
    else [protocolEvent .warn .phases "received duplicate `initialize` request, ignoring"]
  | .shutdown =>
    if server.phase = .ready then
      protocolEvent .info .phases "shutdown request received, shutting down" ::
        handling services server.documents request
    else []
  | _ => if server.phase = .ready then handling services server.documents request else []

/-- A text from the editor that is no message. -/
def misread (reason : String) : Event :=
  protocolEvent .error .transport ("failed to decode message: unable to parse JSON body: " ++ reason)

/-- The editor answers, though it was not asked anything. -/
def unasked (id : Json) : Event :=
  protocolEvent .warn .answers
    (if id.isNull then "received response with request ID of `null`, ignoring"
    else "received response with unknown request ID: " ++ Editor.idText id)

def hasExited : Event := protocolEvent .error .transport "language server has exited"

end KeyScript.Log
