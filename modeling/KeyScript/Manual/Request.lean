import KeyScript.Uri

/-! Requests for pages. A request can be made of the URL of a web page only, and it does
not show the name of a user. -/
namespace KeyScript.Manual

structure Request where
  scheme : String
  host : String
  /-- The port, unless it goes without saying. -/
  port : Option Nat
  url : String
  deriving DecidableEq

namespace Request

inductive Flaw where
  | noUrl
  /-- The URL in normal form leads to no page. -/
  | noPage (url : String)
  deriving DecidableEq

def Flaw.text : Flaw → String
  | noUrl => "builder error"
  | noPage url => "builder error for url (" ++ url ++ ")"

/-- A name or a password that is not empty can be told apart if it is written in UTF-8. -/
def isReadable (cs : List Char) : Bool := (Text.ofUtf8? (Uri.bytes cs)).isSome

/-- Whether a user is left out of the URL: the name can be read, and there is one or a
password that can be read. -/
def isHidden (user : List Char) : Bool :=
  let name := user.takeWhile (· != ':')
  let password := user.dropWhile (· != ':')
  isReadable name && (!name.isEmpty || (!password.isEmpty && isReadable (password.drop 1)))

def parts? (uri : List Char) : Option (List Char × List Char × List Char × List Char) :=
  match uri.dropWhile (· != ':') with
  | ':' :: '/' :: '/' :: more =>
    let inside : Char → Bool := fun c => c != '/' && c != '?' && c != '#'
    let authority := more.takeWhile inside
    let (user, host) := (Uri.splitUser authority).getD ([], authority)
    some (uri.takeWhile (· != ':'), user, host, more.dropWhile inside)
  | _ => none

def isUnfit (c : Char) : Bool := c == '"' || c == '`' || c == '\x7b' || c == '\x7d'

def longest : Nat := 65534

def make (text : String) : Except Flaw Request :=
  match Uri.ofText? text with
  | none => .error .noUrl
  | some uri =>
    match parts? uri.text.toList with
    | none => .error (.noPage uri.text)
    | some (scheme, user, authority, rest) =>
      let shown := if isHidden user || user.isEmpty then authority else user ++ '@' :: authority
      let url := String.ofList (scheme ++ "://".toList ++ shown ++ rest)
      let (host, port) := Uri.splitHost false authority
      if ["http".toList, "https".toList].contains scheme && !host.any isUnfit &&
          url.utf8ByteSize ≤ longest then
        .ok ⟨String.ofList scheme, String.ofList host, Text.natOf? (port.drop 1), url⟩
      else .error (.noPage url)

def authority (r : Request) : String :=
  r.host ++ match r.port with
    | some port => ":" ++ String.ofList (Text.decimal port)
    | none => ""

def address (r : Request) : String :=
  let port := r.port.getD (if r.scheme == "https" then 443 else 80)
  r.host ++ ":" ++ String.ofList (Text.decimal port)

def isDirect (r : Request) : Bool :=
  let host := r.host.toList
  host.head? == some '[' || Uri.endsInNumber host

end Request

end KeyScript.Manual
