import KeyScript.Completion.Context
import KeyScript.Fault
import KeyScript.Path

/-! What the program calls itself, and its settings: what can be chosen, the standard
choice, and what makes a choice valid. -/
namespace KeyScript

def programName : String := "redis-lsp"

def version : String := "0.3.0"

inductive LogLevel where
  | error
  | warn
  | info
  | debug
  | trace
  deriving DecidableEq

namespace LogLevel

def all : List LogLevel := [error, warn, info, debug, trace]

/-- The word for the level in a settings file. -/
def word : LogLevel → String
  | error => "error"
  | warn => "warn"
  | info => "info"
  | debug => "debug"
  | trace => "trace"

def ofWord? (s : String) : Option LogLevel := all.find? (·.word == s)

end LogLevel

structure ConnectionSettings where
  address : String
  username : Option String
  password : Option String
  database : UInt32
  /-- Seconds that a connect attempt may take. -/
  timeout : UInt64
  deriving DecidableEq

structure CacheSettings where
  enabled : Bool
  scanCount : UInt64
  deriving DecidableEq

structure DocumentationSettings where
  directory : Option String
  sourceUrl : String
  deriving DecidableEq

structure LogSettings where
  level : LogLevel
  filePath : Option String
  timestamps : Bool
  deriving DecidableEq

structure Settings where
  connection : ConnectionSettings
  cache : CacheSettings
  completion : Completion.Triggers
  documentation : DocumentationSettings
  logging : LogSettings
  deriving DecidableEq

def ConnectionSettings.standard : ConnectionSettings := ⟨"localhost:6379", none, none, 0, 5⟩

def CacheSettings.standard : CacheSettings := ⟨false, 50⟩

/-- The folder of the program's own files in a home directory. -/
def homeFolder : String := ".redis-lsp"

def DocumentationSettings.standard (home : Option String) : DocumentationSettings :=
  { directory := home.map fun home => Path.join (Path.join home homeFolder) "docs"
    sourceUrl := "https://raw.githubusercontent.com/redis/redis-doc/master/commands" }

def LogSettings.standard : LogSettings := ⟨.warn, none, true⟩

namespace Settings

/-- The settings of a user with this home directory who chose nothing. -/
def standard (home : Option String) : Settings :=
  { connection := .standard
    cache := .standard
    completion := .standard
    documentation := .standard home
    logging := .standard }

/-- Where the settings file is looked for. -/
def defaultPath (home : Option String) : String :=
  Path.join (Path.join (home.getD ".") homeFolder) "config.toml"

def isWebUrl (url : String) : Bool := url.startsWith "http://" || url.startsWith "https://"

/-- The first setting that is not valid, with its value. -/
def invalid? (s : Settings) : Option (String × String) :=
  if Text.isAllBlank s.connection.address then some ("connection.address", s.connection.address)
  else if s.connection.timeout = 0 then some ("connection.timeout", "0")
  else if s.cache.scanCount = 0 then some ("cache.scan_count", "0")
  else if !isWebUrl s.documentation.sourceUrl then
    some ("documentation.source_url", s.documentation.sourceUrl)
  else match s.completion.users.find? Text.isAllBlank with
    | some trigger => some ("completion.user_triggers", trigger)
    | none =>
      (s.completion.keys.find? Text.isAllBlank).map fun trigger =>
        ("completion.key_triggers", trigger)

def validate (s : Settings) : Except Fault Unit :=
  match s.invalid? with
  | some (field, value) => .error (.settings (.invalidValue field value))
  | none => .ok ()

end Settings

end KeyScript
