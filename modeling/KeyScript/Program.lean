import KeyScript.CommandLine.Parser
import KeyScript.CommandLine.Task
import KeyScript.Log.Filter
import KeyScript.Log.Noted

/-! The whole program: from its arguments, the file tree, and what the editor says, to
what it answers, prints and leaves behind. -/
namespace KeyScript

/-- What the program finds around it. -/
structure Surroundings (π : Type) where
  home : Option String
  /-- Directives that choose what is logged. -/
  directives : Option String
  disk : Disk
  source : Manual.Source
  /-- How the store's server is reached, and its state. -/
  peer : Connection.Endpoint → Connection.Peer π
  server : π

structure Run (π : Type) where
  exit : Nat
  /-- For each text of the editor, what was sent meanwhile. -/
  replies : List Editor.Reply
  output : String
  errors : String
  disk : Disk
  server : π

namespace Program

/-- How a command line that gives no options ends. Help and version are printed. -/
def stopped (around : Surroundings π) (stop : CommandLine.Stop) : Run π :=
  let usage := "Usage: " ++ programName ++ " [OPTIONS] [COMMAND]\n"
  let run := fun (exit : Nat) (output errors : String) =>
    (⟨exit, [], output, errors, around.disk, around.server⟩ : Run π)
  match stop with
  | .help => run 0 usage ""
  | .version => run 0 (programName ++ " " ++ version ++ "\n") ""
  | _ => run 2 "" usage

def errorText (fault : Fault) : String := "Error: " ++ fault.message ++ "\n"

/-- Where log lines go: to standard error, and to a file when there is one. -/
structure Logger where
  filter : Log.Filter
  file : Option String

def Logger.ofSettings (directives : Option String) (s : LogSettings) : Logger :=
  ⟨.ofText s.level (directives.getD ""), s.filePath⟩

/-- Only a terminal gets colours. -/
def Logger.style (logger : Logger) : Log.Style :=
  if logger.file.isSome then .plain else .coloured

def Logger.lines (logger : Logger) (events : List Log.Event) : String :=
  Log.lines logger.filter logger.style events

/-- The log file is made when the program starts. -/
def Logger.open (logger : Logger) (disk : Disk) : Except IoFault Disk :=
  match logger.file with
  | none => .ok disk
  | some path => disk.append path ""

def Logger.append (logger : Logger) (disk : Disk) (lines : String) : Disk :=
  match logger.file with
  | none => disk
  | some path => (disk.append path lines).toOption.getD disk

def respond (services : Editor.Services (Log.Noted σ)) (server : Editor.Server (Log.Noted σ))
    (incoming : Editor.Incoming) : Editor.Reply × Editor.Server (Log.Noted σ) :=
  let noting := fun events : List Log.Event => { server with state := server.state.note events }
  match incoming with
  | .misread refusal reason =>
    (⟨some (Editor.answered .null (.error refusal)), []⟩, noting [Log.misread reason])
  | .answer id =>
    if server.phase = .exited then (.none, noting [Log.hasExited])
    else (.none, noting [Log.unasked id])
  | .request request =>
    if server.phase = .exited then (.none, noting [Log.hasExited])
    else (noting (Log.taking services server request)).step services request

/-- One text of the editor. An empty one is passed over. -/
def receive (services : Editor.Services (Log.Noted σ)) (server : Editor.Server (Log.Noted σ))
    (text : String) : Editor.Reply × Editor.Server (Log.Noted σ) :=
  if text.isEmpty then (.none, server)
  else
    let (reply, server) := respond services
      { server with state := server.state.note [Log.heard text] } (.ofText text)
    (reply, { server with state := server.state.note (reply.messages.map Log.told) })

/-- The conversation ends with a text that is no message, and with any message after
the editor's leave. -/
def ends (server : Editor.Server σ) (text : String) : Bool :=
  !text.isEmpty && match Editor.Incoming.ofText text with
    | .misread _ _ => true
    | _ => server.phase = .exited

def converse (services : Editor.Services (Log.Noted σ)) :
    List String → Editor.Server (Log.Noted σ) → List Editor.Reply × Editor.Server (Log.Noted σ)
  | [], server => ([], server)
  | text :: rest, server =>
    let isOver := ends server text
    let (reply, server) := receive services server text
    if isOver then ([reply], server)
    else
      let (replies, server) := converse services rest server
      (reply :: replies, server)

/-- The names to complete with. A store that cannot be reached leaves them empty. -/
def preload (store : Store (Log.Noted σ)) (s : CacheSettings) (n : Log.Noted σ) :
    Completion.Names × Log.Noted σ :=
  if s.enabled then
    match store.loadNames s.scanCount.toNat n with
    | (.ok names, n) => (names, n.note [Log.namesLoaded names])
    | (.error fault, n) => (.empty, n.note [Log.namesNotLoaded fault])
  else (.empty, n)

structure Serving (π : Type) where
  services : Editor.Services (Log.Noted (Connection.Session π))
  server : Editor.Server (Log.Noted (Connection.Session π))
  logger : Logger
  /-- What was already written to standard error. -/
  warning : String
  disk : Disk

namespace Serving

def start (around : Surroundings π) (s : Settings) (e : Connection.Endpoint) (logger : Logger)
    (warning : String) (disk : Disk) : Serving π :=
  let store := Log.Noted.store e.url s.connection.timeout.toNat
    (Connection.Session.store (around.peer e))
  let begun : Log.Noted (Connection.Session π) :=
    ⟨.start around.server, [Log.starting e.url, Log.created e.url]⟩
  let (names, begun) := preload store s.cache begun
  { services :=
      { triggers := s.completion
        names
        manual := ⟨s.documentation.directory⟩
        disk
        store }
    server := .start begun
    logger
    warning
    disk }

def log (serving : Serving π) : List Log.Event := serving.server.state.log

def receive (serving : Serving π) (text : String) : Editor.Reply × Serving π :=
  let (reply, server) := Program.receive serving.services serving.server text
  (reply, { serving with server })

/-- Nothing more is read from the editor. -/
def stop (serving : Serving π) : Serving π :=
  let server := serving.server
  { serving with server := { server with state := server.state.note [Log.stopping] } }

def run (serving : Serving π) (texts : List String) : Run π :=
  let (replies, server) := converse serving.services texts serving.server
  let serving := { serving with server }.stop
  let lines := serving.logger.lines serving.log
  { exit := 0
    replies
    output := ""
    errors := serving.warning ++ lines
    disk := serving.logger.append serving.disk lines
    server := serving.server.state.state.peer }

end Serving

def perform (around : Surroundings π) (o : CommandLine.Options) (s : Settings) (logger : Logger)
    (warning : String) (disk : Disk) (task : CommandLine.Task) : Run π :=
  let report := CommandLine.perform around.home around.source o s disk task
  let events := match report.directory with
    | some directory => Log.fetching directory report.visits
    | none => []
  let lines := logger.lines events
  let disk := logger.append report.disk lines
  match report.result with
  | .ok () => ⟨0, [], report.output, warning ++ lines, disk, around.server⟩
  | .error fault => ⟨1, [], report.output, warning ++ lines ++ errorText fault, disk, around.server⟩

/-- What happens once the settings are known and the log is open. -/
def proceed (around : Surroundings π) (o : CommandLine.Options) (s : Settings) (logger : Logger)
    (warning : String) (disk : Disk) : Except (Run π) (Serving π) :=
  match o.task with
  | some task => .error (perform around o s logger warning disk task)
  | none =>
    match Connection.endpoint s.connection with
    | .error fault => .error ⟨1, [], "", warning ++ errorText fault, disk, around.server⟩
    | .ok e => .ok (.start around s e logger warning disk)

/-- The program breaks off before it does anything. -/
def broken (around : Surroundings π) (warning : String) (disk : Disk) : Run π :=
  ⟨101, [], "", warning, disk, around.server⟩

/-- What the arguments lead to: an end, or a program that serves an editor. -/
def launch (around : Surroundings π) (args : List String) : Except (Run π) (Serving π) :=
  match CommandLine.parse args with
  | .error stop => .error (stopped around stop)
  | .ok o =>
    match CommandLine.start around.home around.disk o with
    | .error fault => .error ⟨1, [], "", errorText fault, around.disk, around.server⟩
    | .ok start =>
      let logger := Logger.ofSettings around.directives start.settings.logging
      match logger.open around.disk with
      | .error fault =>
        .error ⟨1, [], "", start.warningText ++ errorText (.io fault), around.disk, around.server⟩
      | .ok disk =>
        let directives := around.directives.getD ""
        let warning := start.warningText ++ Log.Filter.complaints directives
        if Log.Filter.isTorn directives then .error (broken around warning disk)
        else proceed around o start.settings logger warning disk

def run (around : Surroundings π) (args : List String) (texts : List String) : Run π :=
  match launch around args with
  | .error run => run
  | .ok serving => serving.run texts

end Program

end KeyScript
