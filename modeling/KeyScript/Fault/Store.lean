import KeyScript.Fault.Io
import KeyScript.Json.Printer

/-! Failures of the store: what it signals in an error line, and what goes wrong on
the way to it. They are shown as an indented JSON object. -/
namespace KeyScript

inductive StoreKind where
  | response
  | authenticationFailed
  | type
  | execAbort
  | busyLoading
  | noScript
  | invalidClientConfig
  | moved
  | ask
  | tryAgain
  | clusterDown
  | crossSlot
  | masterDown
  | io
  | extension
  | client
  | readOnly
  | masterNameNotFound
  | noValidReplicas
  | emptySentinelList
  | notBusy
  | clusterConnectionNotFound
  | noSub
  | protocolNotSupported
  | parse
  deriving DecidableEq

namespace StoreKind

def all : List StoreKind := [
  response, authenticationFailed, type, execAbort, busyLoading, noScript, invalidClientConfig,
  moved, ask, tryAgain, clusterDown, crossSlot, masterDown, io, extension, client, readOnly,
  masterNameNotFound, noValidReplicas, emptySentinelList, notBusy, clusterConnectionNotFound,
  noSub, protocolNotSupported, parse]

/-- The word that names the kind in a message. -/
def name : StoreKind → String
  | response => "ResponseError"
  | authenticationFailed => "AuthenticationFailed"
  | type => "TypeError"
  | execAbort => "ExecAbortError"
  | busyLoading => "BusyLoadingError"
  | noScript => "NoScriptError"
  | invalidClientConfig => "InvalidClientConfig"
  | moved => "Moved"
  | ask => "Ask"
  | tryAgain => "TryAgain"
  | clusterDown => "ClusterDown"
  | crossSlot => "CrossSlot"
  | masterDown => "MasterDown"
  | io => "IoError"
  | extension => "ExtensionError"
  | client => "ClientError"
  | readOnly => "ReadOnly"
  | masterNameNotFound => "MasterNameNotFoundBySentinel"
  | noValidReplicas => "NoValidReplicasFoundBySentinel"
  | emptySentinelList => "EmptySentinelList"
  | notBusy => "NotBusy"
  | clusterConnectionNotFound => "ClusterConnectionNotFound"
  | noSub => "NoSub"
  | protocolNotSupported => "RESP3NotSupported"
  | parse => "ParseError"

def category : StoreKind → String
  | response => "response_error"
  | authenticationFailed => "authentication_failed"
  | type => "type_error"
  | execAbort => "script_execution_aborted"
  | busyLoading => "busy_loading"
  | noScript => "no_script"
  | invalidClientConfig => "invalid_client_config"
  | moved => "key_moved"
  | ask => "key_moved_(ask)"
  | tryAgain => "try_again"
  | clusterDown => "cluster_down"
  | crossSlot => "cross-slot"
  | masterDown => "master_down"
  | io => "i/o_error"
  | extension => "extension_error"
  | client => "client_error"
  | readOnly => "read-only"
  | masterNameNotFound => "master_name_not_found_by_sentinel"
  | noValidReplicas => "no_valid_replicas_found_by_sentinel"
  | emptySentinelList => "empty_sentinel_list"
  | notBusy => "not_busy"
  | clusterConnectionNotFound => "connection_to_node_in_cluster_not_found"
  | noSub => "server_declined_unsubscribe_related_command_in_non-subscribed_mode"
  | protocolNotSupported => "resp3_is_not_supported_by_server"
  | parse => "parse_error"

/-- The first word of an error line of this kind. -/
def code? : StoreKind → Option String
  | response => some "ERR"
  | execAbort => some "EXECABORT"
  | busyLoading => some "LOADING"
  | noScript => some "NOSCRIPT"
  | moved => some "MOVED"
  | ask => some "ASK"
  | tryAgain => some "TRYAGAIN"
  | clusterDown => some "CLUSTERDOWN"
  | crossSlot => some "CROSSSLOT"
  | masterDown => some "MASTERDOWN"
  | readOnly => some "READONLY"
  | notBusy => some "NOTBUSY"
  | noSub => some "NOSUB"
  | _ => none

/-- The code shown with a failure of this kind. An unsubscribe that was declined shows none. -/
def shownCode? (kind : StoreKind) : Option String :=
  if kind = .noSub then none else kind.code?

def ofCode? (code : String) : Option StoreKind := all.find? (·.code? == some code)

end StoreKind

inductive StoreFault where
  | described (kind : StoreKind) (description : String) (detail : Option String)
  /-- An error line whose first word is not one of the known codes. -/
  | extension (code detail : String)
  | io (cause : IoFault)
  deriving DecidableEq

namespace StoreFault

def code? : StoreFault → Option String
  | described kind _ _ => kind.shownCode?
  | extension code _ => some code
  | io _ => none

/-- The whole failure on one line. -/
def summary : StoreFault → String
  | described kind description none => description ++ "- " ++ kind.name
  | described kind description (some detail) => description ++ " - " ++ kind.name ++ ": " ++ detail
  | extension code detail => code ++ ": " ++ detail
  | io cause => cause.text

def message : StoreFault → String
  | described _ _ (some detail) => detail
  | extension _ detail => detail
  | fault => fault.summary

def type : StoreFault → String
  | described kind _ _ => "redis." ++ kind.category
  | extension _ _ => "redis." ++ StoreKind.extension.category
  | io cause =>
    if cause.kind.isTimeout then "redis.timeout"
    else if cause.kind.isConnection then "redis.connection"
    else "redis." ++ StoreKind.io.category

def json (fault : StoreFault) : Json :=
  let code := match fault.code? with
    | some code => [("code", .string code)]
    | none => []
  .object [("error", .object
    (code ++ [("message", .string fault.message), ("type", .string fault.type)]))]

end StoreFault

/-- An error line of the store: a code, and what follows the first space. -/
structure ErrorLine where
  code : String
  detail : Option String
  deriving DecidableEq

namespace ErrorLine

def ofText (line : String) : ErrorLine :=
  let cs := line.toList
  match cs.dropWhile (· != ' ') with
  | [] => ⟨line, none⟩
  | _ :: detail => ⟨String.ofList (cs.takeWhile (· != ' ')), some (String.ofList detail)⟩

def fault (line : ErrorLine) : StoreFault :=
  match StoreKind.ofCode? line.code with
  | some kind => .described kind "An error was signalled by the server" line.detail
  | none => .extension line.code (line.detail.getD "Unknown extension error encountered")

end ErrorLine

end KeyScript
