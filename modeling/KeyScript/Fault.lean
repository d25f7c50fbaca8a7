import KeyScript.Fault.Store
import KeyScript.Script.Statement

/-! Everything that can go wrong, by cause, and the text of each cause. -/
namespace KeyScript

inductive ConnectionFault where
  | failed (reason : String)
  | timeout
  | invalidAddress (address : String)
  deriving DecidableEq

inductive ExecutionFault where
  | missingArgument
  | emptyCommand
  deriving DecidableEq

inductive SettingsFault where
  | fileNotFound (path : String)
  | invalidFormat (reason : String)
  | invalidValue (field value : String)
  deriving DecidableEq

inductive Fault where
  | connection (cause : ConnectionFault)
  | parse (cause : Script.ParseFault)
  | execution (cause : ExecutionFault)
  | settings (cause : SettingsFault)
  | io (cause : IoFault)
  | store (cause : StoreFault)
  | http (reason : String)
  | generic (text : String)
  deriving DecidableEq

def ConnectionFault.message : ConnectionFault → String
  | failed reason => "Failed to connect: " ++ reason
  | timeout => "Connection timeout"
  | invalidAddress address => "Invalid connection address: " ++ address

def ExecutionFault.message : ExecutionFault → String
  | missingArgument => "expected the command text as the first argument"
  | emptyCommand => "empty command"

def SettingsFault.message : SettingsFault → String
  | fileNotFound path => "Config file not found: " ++ path
  | invalidFormat reason => "Invalid config format: " ++ reason
  | invalidValue field value => "Invalid value '" ++ value ++ "' for field '" ++ field ++ "'"

namespace Fault

def message : Fault → String
  | connection cause => "Connection error: " ++ cause.message
  | parse .emptyInput => "Parse error: empty input"
  | execution cause => "Execution error: " ++ cause.message
  | settings cause => "Configuration error: " ++ cause.message
  | io cause => "I/O error: " ++ cause.text
  | store cause => "\n" ++ cause.json.pretty
  | http reason => "HTTP error: " ++ reason
  | generic text => text

/-- The fault wraps a failure that was reported from outside. -/
def hasSource : Fault → Bool
  | io _ | store _ | http _ => true
  | _ => false

end Fault

end KeyScript
