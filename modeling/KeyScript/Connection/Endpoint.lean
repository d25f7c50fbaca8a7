import KeyScript.Settings
import KeyScript.Text.Digits
import KeyScript.Text.Quoted

/-! Where a server listens: reading an address, and showing it without credentials. -/
namespace KeyScript.Connection

inductive Address where
  | host (name : String) (port : Nat)
  | socket (path : String)
  deriving DecidableEq

structure Endpoint where
  address : Address
  database : Nat
  username : Option String
  password : Option String
  deriving DecidableEq

def standardPort : Nat := 6379

def splitAt? (c : Char) (cs : List Char) : Option (List Char × List Char) :=
  match cs.dropWhile (· != c) with
  | [] => none
  | _ :: rest => some (cs.takeWhile (· != c), rest)

/-- Host and port text: `host`, `host:port`, `[host]` or `[host]:port`. -/
def hostAndPort? (cs : List Char) : Option (List Char × Option (List Char)) :=
  match cs with
  | '[' :: rest =>
    match splitAt? ']' rest with
    | none => none
    | some (host, []) => some (host, none)
    | some (host, ':' :: port) => some (host, some port)
    | some _ => none
  | _ =>
    match splitAt? ':' cs with
    | none => some (cs, none)
    | some (host, port) => if port.contains ':' then none else some (host, some port)

/-- A port of sixteen bits; left out, it is the standard port. -/
def port? : Option (List Char) → Option Nat
  | none => some standardPort
  | some digits => Text.boundedNat? 65535 digits

/-- Host and port of a trimmed address. A slash or an at sign belongs to no address. -/
def parseTrimmed? (cs : List Char) : Option (String × Nat) :=
  if cs.isEmpty || cs.contains '/' || cs.contains '@' then none
  else match hostAndPort? cs with
    | none => none
    | some (host, port) =>
      if host.isEmpty then none else (port? port).map (String.ofList host, ·)

/-- Host and port of an address. A fault names the address as it was written. -/
def parseAddress (address : String) : Except Fault (String × Nat) :=
  match parseTrimmed? (Text.trimmed address.toList) with
  | some pair => .ok pair
  | none => .error (.connection (.invalidAddress address))

def endpoint (settings : ConnectionSettings) : Except Fault Endpoint :=
  match parseAddress settings.address with
  | .error fault => .error fault
  | .ok (host, port) =>
    .ok ⟨.host host port, settings.database.toNat, settings.username, settings.password⟩

/-- A host with a colon stands in brackets. -/
def Address.text : Address → String
  | host name port =>
    let number := String.ofList (Text.decimal port)
    if name.toList.contains ':' then "[" ++ name ++ "]:" ++ number else name ++ ":" ++ number
  | socket path => "Unix(" ++ Text.quoted path ++ ")"

def Endpoint.url (e : Endpoint) : String :=
  let credentials := if e.username.isSome || e.password.isSome then "***@" else ""
  "redis://" ++ credentials ++ e.address.text ++ "/" ++ String.ofList (Text.decimal e.database)

end KeyScript.Connection
