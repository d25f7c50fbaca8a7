import KeyScript.Decimal.Layout
import KeyScript.Fault.Store
import KeyScript.Text.Quoted
import KeyScript.Text.Utf8

/-! Values that the store answers with, and their two texts: the one shown to the
user, and the one that names the type of every part. -/
namespace KeyScript.Reply

inductive PushKind where
  | message
  | invalidate
  | subscribe
  | other (name : String)
  deriving DecidableEq

inductive VerbatimFormat where
  | text
  | markdown
  | other (name : String)
  deriving DecidableEq

inductive Value where
  | nil
  | okay
  | int (n : Int)
  | bulk (bytes : List UInt8)
  | simple (text : String)
  | double (number : Decimal.Binary)
  | bool (b : Bool)
  | array (items : List Value)
  | set (items : List Value)
  | map (entries : List (Value × Value))
  | push (kind : PushKind) (items : List Value)
  | attribute (data : Value) (attributes : List (Value × Value))
  | verbatim (format : VerbatimFormat) (text : String)
  | bigNumber (n : Int)
  | error (line : ErrorLine)

instance : Inhabited Value := ⟨.nil⟩

def PushKind.text : PushKind → String
  | message => "Message"
  | invalidate => "Invalidate"
  | subscribe => "Subscribe"
  | other name => "Other(" ++ Text.quoted name ++ ")"

def VerbatimFormat.name : VerbatimFormat → String
  | text => "Text"
  | markdown => "Markdown"
  | other name => "Unknown(" ++ Text.quoted name ++ ")"

def number (n : Int) : String := String.ofList (Text.decimalInt n)

def boolText (b : Bool) : String := if b then "true" else "false"

def errorText (line : ErrorLine) : String :=
  match line.detail with
  | some detail => "Server error: `" ++ line.code ++ ": " ++ detail ++ "`"
  | none => "Server error: `" ++ line.code ++ "`"

/-- Bytes by their text where they have one, else by number. -/
def bytesText (bytes : List UInt8) : String :=
  match Text.ofUtf8? bytes with
  | some text => "bulk-string('" ++ Text.quoted text ++ "')"
  | none =>
    "binary-data([" ++ ", ".intercalate (bytes.map fun b => number b.toNat) ++ "])"

namespace Value

mutual

/-- The text that names the type of each part. -/
def typedText : Value → String
  | .nil => "nil"
  | .okay => "ok"
  | .int n => "int(" ++ number n ++ ")"
  | .bulk bytes => bytesText bytes
  | .simple text => "simple-string(" ++ Text.quoted text ++ ")"
  | .double d => "double(" ++ d.marked ++ ")"
  | .bool b => "boolean(" ++ boolText b ++ ")"
  | .array items => "array([" ++ ", ".intercalate (typedItems items) ++ "])"
  | .set items => "set([" ++ ", ".intercalate (typedItems items) ++ "])"
  | .map entries => "map([" ++ ", ".intercalate (typedEntries entries) ++ "])"
  | .push kind items => "push(" ++ kind.text ++ ", [" ++ ", ".intercalate (typedItems items) ++ "])"
  | .attribute data _ => "attribute(" ++ typedText data ++ ")"
  | .verbatim format text => "verbatim-string(" ++ format.name ++ "," ++ Text.quoted text ++ ")"
  | .bigNumber n => "big-number(" ++ number n ++ ")"
  | .error line => errorText line

def typedItems : List Value → List String
  | [] => []
  | item :: rest => typedText item :: typedItems rest

def typedEntries : List (Value × Value) → List String
  | [] => []
  | (key, value) :: rest =>
    ("(" ++ typedText key ++ ", " ++ typedText value ++ ")") :: typedEntries rest

end

mutual

/-- The text shown to the user. -/
def text : Value → String
  | .nil => "(nil)"
  | .okay => "OK"
  | .int n => number n
  | .bulk bytes => Text.ofUtf8Lossy bytes
  | .simple s => s
  | .double d => d.plain
  | .bool b => boolText b
  | .array items => "[" ++ " ".intercalate (itemTexts items) ++ "]"
  | .set items => "[" ++ " ".intercalate (itemTexts items) ++ "]"
  | .map entries => "map[" ++ " ".intercalate (entryTexts entries) ++ "]"
  | .push kind items => typedText (.push kind items)
  | .attribute data attributes => typedText (.attribute data attributes)
  | .verbatim format s => typedText (.verbatim format s)
  | .bigNumber n => typedText (.bigNumber n)
  | .error line => typedText (.error line)

def itemTexts : List Value → List String
  | [] => []
  | item :: rest => text item :: itemTexts rest

def entryTexts : List (Value × Value) → List String
  | [] => []
  | (key, value) :: rest => (text key ++ ":" ++ text value) :: entryTexts rest

end

end Value

end KeyScript.Reply
