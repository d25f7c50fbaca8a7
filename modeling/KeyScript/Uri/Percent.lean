import KeyScript.Text.Digits
import KeyScript.Text.Utf8

/-! Characters written by their bytes, each with a percent sign and two digits. Every
part of a URI has characters of its own that are written so. -/
namespace KeyScript.Uri

def percent (c : Char) : List Char :=
  (String.utf8EncodeChar c).flatMap fun b => '%' :: (Text.hex 2 b.toNat).map Char.toUpper

/-- Characters that are written by their bytes everywhere. -/
def isControl (c : Char) : Bool := c.toNat < 0x20 || 0x7F ≤ c.toNat

def hiddenInFragment (c : Char) : Bool :=
  isControl c || c == ' ' || c == '"' || c == '<' || c == '>' || c == '`'

def hiddenInPath (c : Char) : Bool :=
  hiddenInFragment c || c == '#' || c == '?' || c == '\x7b' || c == '\x7d'

def hiddenInUser (c : Char) : Bool := hiddenInPath c || "/:;=@[\\]^|".toList.contains c

def hiddenInQuery (c : Char) : Bool :=
  isControl c || c == ' ' || c == '"' || c == '#' || c == '<' || c == '>'

def encode (hidden : Char → Bool) (cs : List Char) : List Char :=
  cs.flatMap fun c => if hidden c then percent c else [c]

/-- The byte that two digits write. -/
def byte? (high low : Char) : Option UInt8 :=
  (Text.numberOf? 16 Text.hexDigit? [high, low]).map Nat.toUInt8

/-- The bytes of a text; a percent sign and two digits stand for one. -/
def bytes : List Char → List UInt8
  | '%' :: high :: low :: rest =>
    match byte? high low with
    | some b => b :: bytes rest
    | none => String.utf8EncodeChar '%' ++ bytes (high :: low :: rest)
  | c :: rest => String.utf8EncodeChar c ++ bytes rest
  | [] => []

end KeyScript.Uri
