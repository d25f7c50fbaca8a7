import KeyScript.Uri.Host
import KeyScript.Uri.Path

/-! URIs, by which an editor names its documents and pages are asked for. They are kept
in a normal form, so that two spellings of a URI name one document. -/
namespace KeyScript

structure Uri where
  text : String
  deriving DecidableEq

namespace Uri

/-- Controls and blanks around a URI do not belong to it. -/
def trimmed (cs : List Char) : List Char :=
  let isEdge : Char → Bool := fun c => c.toNat ≤ 0x20
  ((cs.dropWhile isEdge).reverse.dropWhile isEdge).reverse

def isSchemeChar (c : Char) : Bool := c.isAlphanum || c == '+' || c == '-' || c == '.'

/-- The scheme in lower case, and what follows the colon. -/
def scheme? (cs : List Char) : Option (List Char × List Char) :=
  let inside : Char → Bool := fun c => isSchemeChar c || isBreak c
  match unbroken (cs.takeWhile inside), cs.dropWhile inside with
  | first :: more, ':' :: rest =>
    if first.isAlpha then some ((first :: more).map Char.toLower, rest) else none
  | _, _ => none

/-- Schemes are of three kinds. -/
inductive Kind where
  /-- A scheme of the web, with the port that goes without saying. -/
  | web (port : Nat)
  | file
  | other
  deriving DecidableEq

def Kind.ofScheme (scheme : List Char) : Kind :=
  match String.ofList scheme with
  | "http" => .web 80
  | "https" => .web 443
  | "ws" => .web 80
  | "wss" => .web 443
  | "ftp" => .web 21
  | "file" => .file
  | _ => .other

/-- With the web and with files a backslash is a slash. -/
def Kind.isSlash (kind : Kind) (c : Char) : Bool := c == '/' || (c == '\\' && kind != .other)

/-- The part in front of the query and the fragment, and those. -/
def split (cs : List Char) : List Char × List Char :=
  let inside : Char → Bool := fun c => c != '?' && c != '#'
  (cs.takeWhile inside, cs.dropWhile inside)

def fragment : List Char → List Char
  | [] => []
  | _ :: rest => '#' :: encode hiddenInFragment rest

def tail (kind : Kind) (cs : List Char) : List Char :=
  match cs with
  | '?' :: rest =>
    let hidden := fun c => hiddenInQuery c || (c == '\'' && kind != .other)
    '?' :: (encode hidden (rest.takeWhile (· != '#')) ++ fragment (rest.dropWhile (· != '#')))
  | rest => fragment rest

def straightened (kind : Kind) (cs : List Char) : List Char :=
  cs.map fun c => if kind.isSlash c then '/' else c

/-- The name of a user and a password, up to the last at sign of the authority. A name
and a password that are empty are left out. -/
def user (cs : List Char) : List Char :=
  let name := encode hiddenInUser (cs.takeWhile (· != ':'))
  let password := match cs.dropWhile (· != ':') with
    | _ :: rest => encode hiddenInUser rest
    | [] => []
  if password.isEmpty then if name.isEmpty then [] else name ++ ['@']
  else name ++ ':' :: password ++ ['@']

/-- The host and what follows it. A colon ends it outside of brackets. -/
def splitHost (isInside : Bool) : List Char → List Char × List Char
  | [] => ([], [])
  | c :: rest =>
    if c == ':' && !isInside then ([], c :: rest)
    else
      let (host, after) := splitHost (if c == '[' then true else if c == ']' then false else isInside) rest
      (c :: host, after)

/-- The port behind a host, written unless it goes without saying. -/
def port (kind : Kind) (digits : List Char) : Except Flaw (List Char) :=
  if digits.isEmpty then .ok []
  else match (Text.natOf? digits).filter (· < UInt16.size) with
    | none => .error .port
    | some n => .ok (if kind = .web n then [] else ':' :: Text.decimal n)

def host (kind : Kind) (cs : List Char) : Except Flaw (List Char) :=
  match kind with
  | .other => opaqueHost cs
  | _ => if cs.isEmpty then .error .emptyHost else domainHost cs

def splitUser (cs : List Char) : Option (List Char × List Char) :=
  if cs.contains '@' then
    let host := (cs.reverse.takeWhile (· != '@')).reverse
    some (cs.take (cs.length - host.length - 1), host)
  else none

/-- Splits the digits of a port from what follows, which for once may begin with a
backslash. -/
def splitPort (cs : List Char) : List Char × List Char :=
  (cs.takeWhile (· != '\\'), cs.dropWhile (· != '\\'))

/-- A user, a host and a port, and what is left of the text that held them. -/
def authority (kind : Kind) (cs : List Char) (isLast : Bool) : Except Flaw (List Char × List Char) := do
  let (user, rest) := match splitUser cs with
    | none => ([], cs)
    | some (user, rest) => (Uri.user user, rest)
  if splitUser cs = some ([], []) ∧ !isLast then .error .emptyHost
  let (name, after) := splitHost false rest
  let host ← host kind name
  if host.isEmpty ∧ (!after.isEmpty ∨ !user.isEmpty) then .error .emptyHost
  let (digits, left) := splitPort (after.drop 1)
  let port ← port kind digits
  .ok (user ++ host ++ port, left)

/-- What follows two slashes, unless it belongs to a file. -/
def behindSlashes (kind : Kind) (cs : List Char) : Except Flaw (List Char) := do
  let inside : Char → Bool := fun c => !kind.isSlash c && c != '?' && c != '#'
  let rest := cs.dropWhile inside
  let (authority, left) ← authority kind (cs.takeWhile inside) rest.isEmpty
  let (p, rest) := split (left ++ rest)
  let path := match straightened kind p with
    | '/' :: more => path more
    | more => if more.isEmpty && kind == .other then [] else path more
  .ok ('/' :: '/' :: (authority ++ path ++ tail kind rest))

/-- The host of a file and the segments of its path, from the pieces between slashes.
What looks like a drive is no host, and this host is none. -/
def fileParts (pieces : List (List Char)) : Except Flaw (List Char × List (List Char)) :=
  let isEmpty : List Char → Bool := fun piece => (unbroken piece).isEmpty
  match pieces with
  | first :: second :: third :: rest =>
    if isEmpty first && isEmpty second then
      let name := unbroken third
      if name.isEmpty || isDrive name then .ok ([], third :: rest)
      else (domainHost name).map fun host =>
        if host == "localhost".toList then ([], [] :: rest) else (host, rest)
    else .ok ([], if isEmpty first then second :: third :: rest else pieces)
  | first :: rest => .ok ([], if isEmpty first then rest else pieces)
  | [] => .ok ([], [])

/-- What follows the scheme of a file, breaks included. A host is left out if the path
begins with a drive. -/
def file (cs : List Char) : Except Flaw (List Char) := do
  let (front, rest) := split cs
  let (host, segments) ← fileParts (Text.pieces '/' (straightened .file front))
  let path := (FilePath.mk [] false).walked segments
  .ok ('/' :: '/' :: ((if path.hasDrive then [] else host) ++ path.text ++ tail .file (unbroken rest)))

/-- What follows any other scheme. A path that does not begin with a slash is opaque,
and one that begins with two is not to be taken for a host. -/
def other (cs : List Char) : Except Flaw (List Char) :=
  match cs with
  | '/' :: '/' :: rest => behindSlashes .other rest
  | '/' :: rest =>
    let (p, rest) := split rest
    let path := path p
    let mark := match path with
      | '/' :: '/' :: _ => ['/', '.']
      | _ => []
    .ok (mark ++ path ++ tail .other rest)
  | cs =>
    let (p, rest) := split cs
    .ok (encode isControl p ++ tail .other rest)

def parse (text : String) : Except Flaw Uri :=
  match scheme? (trimmed text.toList) with
  | none => .error .noScheme
  | some (scheme, rest) =>
    let kind := Kind.ofScheme scheme
    let body := match kind with
      | .web _ => behindSlashes kind ((unbroken rest).dropWhile kind.isSlash)
      | .file => file rest
      | .other => other (unbroken rest)
    body.map fun body => ⟨String.ofList (scheme ++ ':' :: body)⟩

def ofText? (text : String) : Option Uri := (parse text).toOption

end Uri

end KeyScript
