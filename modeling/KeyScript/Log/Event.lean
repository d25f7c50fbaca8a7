import KeyScript.Settings
import KeyScript.Text.Digits

/-! What the program notes about its work, and the line that shows it. -/
namespace KeyScript.Log

structure Event where
  level : LogLevel
  area : String
  message : String
  /-- Named details in the order they are shown. -/
  details : List (String × String)
  deriving DecidableEq

/-- The event carries something under this name, if only its message. -/
def Event.has (e : Event) (name : String) : Bool := name == "message" || e.details.any (·.1 == name)

/-- The word for a level in a line, five columns wide. -/
def levelText : LogLevel → String
  | .error => "ERROR"
  | .warn => " WARN"
  | .info => " INFO"
  | .debug => "DEBUG"
  | .trace => "TRACE"

inductive Style where
  | plain
  | coloured
  deriving DecidableEq

/-- The text between a terminal's codes for a style and for its end. -/
def painted (code text : String) : String := "\x1b[" ++ code ++ "m" ++ text ++ "\x1b[0m"

def levelColour : LogLevel → String
  | .error => "31"
  | .warn => "33"
  | .info => "32"
  | .debug => "34"
  | .trace => "35"

def Style.level (style : Style) (level : LogLevel) : String :=
  match style with
  | .plain => levelText level
  | .coloured => painted (levelColour level) (levelText level)

/-- A name, the equality sign and the value. Terminals show the name in italics. -/
def Style.detail (style : Style) (detail : String × String) : String :=
  match style with
  | .plain => " " ++ detail.1 ++ "=" ++ detail.2
  | .coloured => " " ++ painted "3" detail.1 ++ painted "2" "=" ++ detail.2

/-- A character of a message. Those that could steer a terminal are written as codes. -/
def harmless (c : Char) : List Char :=
  let n := c.toNat
  if n = 7 ∨ n = 8 ∨ n = 0xC ∨ n = 0x1B ∨ n = 0x7F then '\\' :: 'x' :: Text.hex 2 n
  else if 0x80 ≤ n ∧ n ≤ 0x9F then "\\u\x7b".toList ++ Text.hex 1 n ++ ['\x7d']
  else [c]

def Event.line (style : Style) (e : Event) : String :=
  style.level e.level ++ " " ++ String.ofList (e.message.toList.flatMap harmless) ++
    String.join (e.details.map style.detail) ++ "\n"

end KeyScript.Log
