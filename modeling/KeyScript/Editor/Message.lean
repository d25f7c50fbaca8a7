import KeyScript.Json.Printer
import KeyScript.Json.Reader
import KeyScript.Text.Quoted

/-! Messages between an editor and the server: requests, which are answered, notices,
which are not, and answers. -/
namespace KeyScript.Editor

/-- A message from the editor. Without an identifier it is a notice. -/
structure Request where
  id : Option Json
  method : String
  params : Option Json

/-- Whether sixty-four bits, one of them for the sign, can hold a number. -/
def isWord (n : Int) : Bool := -0x8000000000000000 ≤ n && n < 0x8000000000000000

/-- An identifier is a whole number of sixty-four bits, a text, or null. -/
def isId : Json → Bool
  | .null | .string _ => true
  | .integer n => isWord n
  | _ => false

def idText : Json → String
  | .string s => Text.quoted s
  | id => id.compact

def isVersion : Json → Bool
  | .string s => s == "2.0"
  | _ => false

def valuesOf (name : String) (fields : List (String × Json)) : List Json :=
  (fields.filter (·.1 == name)).map (·.2)

def atMostOnce (name : String) (fields : List (String × Json)) : Bool :=
  (valuesOf name fields).length ≤ 1

namespace Request

/-- A request from its parts, of which those at the end may be left out. -/
def ofParts? : List Json → Option Request
  | [version] => if isVersion version then some ⟨none, "", none⟩ else none
  | [version, .string method] => if isVersion version then some ⟨none, method, none⟩ else none
  | [version, .string method, params] =>
    if isVersion version then some ⟨none, method, some params.settled⟩ else none
  | [version, .string method, params, id] =>
    if isVersion version && isId id then some ⟨some id, method, some params.settled⟩ else none
  | _ => none

/-- A request from its fields, none of which may be repeated. -/
def ofFields? (fields : List (String × Json)) : Option Request :=
  let method := match valuesOf "method" fields with
    | [.string method] => some method
    | [] => some ""
    | _ => none
  match valuesOf "jsonrpc" fields, method with
  | [version], some method =>
    if isVersion version && atMostOnce "params" fields && atMostOnce "id" fields &&
        (valuesOf "id" fields).all isId then
      some ⟨(valuesOf "id" fields).head?, method, (valuesOf "params" fields).head?.map Json.settled⟩
    else none
  | _, _ => none

def ofJson? : Json → Option Request
  | .object fields => ofFields? fields
  | .array parts => ofParts? parts
  | _ => none

end Request

def isCode : Json → Bool
  | .integer n => isWord n
  | _ => false

/-- The report of a failure: a code, a message, and data that may be left out. -/
def isFailure : Json → Bool
  | .array [code, .string _, _] => isCode code
  | .object fields =>
    fields.all (fun field => ["code", "message", "data"].contains field.1) &&
      atMostOnce "data" fields &&
      match valuesOf "code" fields, valuesOf "message" fields with
      | [code], [.string _] => isCode code
      | _, _ => false
  | _ => false

/-- The identifier of an answer, if the message is one. -/
def answerId? : Json → Option Json
  | .object fields =>
    match valuesOf "jsonrpc" fields, valuesOf "id" fields with
    | [version], [id] =>
      let isAnswer := match valuesOf "result" fields, valuesOf "error" fields with
        | [_], _ => true
        | _, [failure] => isFailure failure
        | _, _ => false
      if isVersion version && isId id && isAnswer then some id else none
    | _, _ => none
  | _ => none

inductive Refusal where
  | unreadable
  | invalidRequest
  | notInitialized
  | unknownMethod (name : String)
  | notServed
  | invalidParams (reason : String)
  deriving DecidableEq

namespace Refusal

def code : Refusal → Int
  | unreadable => -32700
  | invalidRequest => -32600
  | notInitialized => -32002
  | unknownMethod _ => -32601
  | notServed => -32601
  | invalidParams _ => -32602

def message : Refusal → String
  | unreadable => "Parse error"
  | invalidRequest => "Invalid request"
  | notInitialized => "Server not initialized"
  | unknownMethod _ => "Method not found"
  | notServed => "Method not found"
  | invalidParams reason => reason

def json (r : Refusal) : Json :=
  let data := match r with
    | .unknownMethod name => [("data", Json.string name)]
    | _ => []
  .object ([("code", .integer r.code), ("message", .string r.message)] ++ data)

end Refusal

inductive Incoming where
  | request (request : Request)
  /-- An answer to something that the editor was asked. -/
  | answer (id : Json)
  /-- No message, with what is wrong with the text. -/
  | misread (refusal : Refusal) (reason : String)

namespace Incoming

def ofJson? (message : Json) : Option Incoming :=
  match answerId? message with
  | some id => some (.answer id)
  | none => (Request.ofJson? message).map .request

/-- What is said of a text that has another form than a message. -/
def formless : String := "data did not match any variant of untagged enum Message"

/-- What follows a message is looked at last. -/
def ofText (text : String) : Incoming :=
  match Json.start text with
  | .error flaw => .misread .unreadable (flaw.message text)
  | .ok (message, rest) =>
    match ofJson? message with
    | none => .misread .invalidRequest formless
    | some incoming =>
      match Json.finish rest with
      | .error flaw => .misread .unreadable (flaw.message text)
      | .ok () => incoming

end Incoming

/-- The answer to the request with an identifier. -/
def answered (id : Json) : Except Refusal Json → Json
  | .ok result => .object [("jsonrpc", .string "2.0"), ("result", result.settled), ("id", id)]
  | .error refusal => .object [("jsonrpc", .string "2.0"), ("error", refusal.json), ("id", id)]

inductive Severity where
  | error
  | info
  | log
  deriving DecidableEq

def Severity.number : Severity → Nat
  | error => 1
  | info => 3
  | log => 4

/-- A message to the editor's user: for its log, or shown. -/
inductive Notice where
  | logged (severity : Severity) (text : String)
  | shown (severity : Severity) (text : String)
  deriving DecidableEq

def Notice.json (notice : Notice) : Json :=
  let (method, severity, text) := match notice with
    | .logged severity text => ("window/logMessage", severity, text)
    | .shown severity text => ("window/showMessage", severity, text)
  .object [("jsonrpc", .string "2.0"), ("method", .string method),
    ("params", .object [("message", .string text), ("type", .nat severity.number)])]

end KeyScript.Editor
