import KeyScript.Domain.Name
import KeyScript.Uri.Address
import KeyScript.Uri.Percent

/-! Hosts. With the schemes of the web, and for files, a host is an address or the name
of a domain; with any other it is an address in brackets or a word that says nothing. -/
namespace KeyScript.Uri

/-- Why a text is no URI. -/
inductive Flaw where
  | noScheme
  | emptyHost
  | name
  | character
  | ipv4
  | ipv6
  | port
  deriving DecidableEq

def Flaw.text : Flaw → String
  | noScheme => "relative URL without a base"
  | emptyHost => "empty host"
  | name => "invalid international domain name"
  | character => "invalid domain character"
  | ipv4 => "invalid IPv4 address"
  | ipv6 => "invalid IPv6 address"
  | port => "invalid port number"

/-- An address in brackets; `rest` follows the opening one. -/
def bracketed (rest : List Char) : Except Flaw (List Char) :=
  match rest.reverse with
  | ']' :: inside =>
    match ipv6? inside.reverse with
    | some pieces => .ok ('[' :: (ipv6Text pieces ++ [']']))
    | none => .error .ipv6
  | _ => .error .ipv6

/-- The name of a domain, or an IPv4 address. -/
def named (cs : List Char) : Except Flaw (List Char) :=
  match (Text.ofUtf8? (bytes cs)).bind fun name => Domain.ascii? name.toList with
  | none => .error .name
  | some [] => .error .emptyHost
  | some name =>
    if endsInNumber name then
      match ipv4? name with
      | some n => .ok (ipv4Text n)
      | none => .error .ipv4
    else .ok name

def domainHost (cs : List Char) : Except Flaw (List Char) :=
  match cs with
  | '[' :: rest => bracketed rest
  | cs => named cs

/-- Characters that no other host has. -/
def isForbidden (c : Char) : Bool :=
  c.toNat = 0 || "\t\n\r #/:<>?@[\\]^|".toList.contains c

def opaqueHost (cs : List Char) : Except Flaw (List Char) :=
  match cs with
  | '[' :: rest => bracketed rest
  | cs => if cs.any isForbidden then .error .character else .ok (encode isControl cs)

end KeyScript.Uri
